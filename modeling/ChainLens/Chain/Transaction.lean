import ChainLens.Encoding.CompactSize

/-!
Transactions and their two serialized forms. The plain form holds version, inputs, outputs and lock
time. The witness form puts a marker 0 and a flag 1 after the version and the witnesses before the
lock time; it is used when some input has a witness, and when there are no inputs, whose count would
read as the marker.
-/

namespace ChainLens

abbrev Script := Bytes

abbrev Witness := List Bytes

structure TxInput where
  previousTxid : Txid
  previousIndex : UInt32
  scriptSig : Script
  sequence : UInt32
  witness : Witness
  deriving DecidableEq

structure TxOutput where
  /-- The amount in satoshis. -/
  value : UInt64
  script : Script
  deriving DecidableEq

structure Transaction where
  version : Int32
  inputs : List TxInput
  outputs : List TxOutput
  lockTime : UInt32
  deriving DecidableEq

def TxInput.isCoinbase (input : TxInput) : Bool := input.previousTxid = Hash256.zero

namespace TxInput

def encode (input : TxInput) : Bytes :=
  input.previousTxid.bytes ++ Encode.word32 input.previousIndex ++
  Encode.countedBytes input.scriptSig ++ Encode.word32 input.sequence

def decoder : Decoder TxInput := do
  let previousTxid ← Decoder.hash256
  let previousIndex ← Decoder.word32
  let scriptSig ← Decoder.countedBytes
  let sequence ← Decoder.word32
  return { previousTxid, previousIndex, scriptSig, sequence, witness := [] }

def size (input : TxInput) : Nat := 40 + countedSize input.scriptSig

end TxInput

namespace TxOutput

def encode (output : TxOutput) : Bytes :=
  Encode.word64 output.value ++ Encode.countedBytes output.script

def decoder : Decoder TxOutput := do
  let value ← Decoder.word64
  let script ← Decoder.countedBytes
  return { value, script }

def size (output : TxOutput) : Nat := 8 + countedSize output.script

end TxOutput

namespace Witness

def encode (witness : Witness) : Bytes := Encode.counted Encode.countedBytes witness

def size (witness : Witness) : Nat :=
  CompactSize.width witness.length + sumOver countedSize witness

/-- Reserves room for the next element, of `length` bytes, in a witness of `count` elements of which
those read so far take `used` bytes. Each element takes its bytes, its count and four bytes of an
index; the index is not held against the limit. A sum beyond 64 bits is told as the greatest number
of 64 bits. -/
def reserve (count used length : Nat) : Except DecodeError Unit :=
  let requested := 4 * count + used + length + CompactSize.width length
  if requested ≥ UInt64.size then throw (.oversized (UInt64.size - 1))
  else if requested > witnessLimit + 4 * count then throw (.oversized requested)
  else pure ()

/-- The last `left` elements of a witness of `count` elements, the earlier ones taking `used`
bytes. -/
def elements (count : Nat) : Nat → Nat → Decoder Witness
  | _, 0 => return []
  | used, left + 1 => do
    let length ← CompactSize.decode
    (reserve count used length : Except DecodeError Unit)
    let element ← Decoder.exactly length
    let others ← elements count (used + CompactSize.width length + length) left
    return element :: others

def decoder : Decoder Witness := do
  let count ← CompactSize.decode
  if count > witnessLimit then throw (.oversized count)
  elements count 0 count

end Witness

namespace Transaction

def hasWitness (t : Transaction) : Bool := t.inputs.any fun input => !input.witness.isEmpty

def usesWitnessForm (t : Transaction) : Bool := t.hasWitness || t.inputs.isEmpty

def encodeInputs (t : Transaction) : Bytes := Encode.counted TxInput.encode t.inputs

def encodeOutputs (t : Transaction) : Bytes := Encode.counted TxOutput.encode t.outputs

def encodePlain (t : Transaction) : Bytes :=
  Encode.signed32 t.version ++ t.encodeInputs ++ t.encodeOutputs ++ Encode.word32 t.lockTime

def encode (t : Transaction) : Bytes :=
  if t.usesWitnessForm then
    Encode.signed32 t.version ++ [0, 1] ++ t.encodeInputs ++ t.encodeOutputs ++
      t.inputs.flatMap (fun input => Witness.encode input.witness) ++ Encode.word32 t.lockTime
  else t.encodePlain

def attachWitnesses : List TxInput → Decoder (List TxInput)
  | [] => return []
  | input :: rest => do
    let witness ← Witness.decoder
    let others ← attachWitnesses rest
    return { input with witness } :: others

def witnessBody (version : Int32) : Decoder Transaction := do
  let bare ← Decoder.counted TxInput.decoder
  let outputs ← Decoder.counted TxOutput.decoder
  let inputs ← attachWitnesses bare
  if !inputs.isEmpty && inputs.all (fun input => input.witness.isEmpty) then throw .noWitness
  let lockTime ← Decoder.word32
  return { version, inputs, outputs, lockTime }

/-- Reads either form; an input count of zero is the marker of the witness form. -/
def decoder : Decoder Transaction := do
  let version ← Decoder.signed32
  let inputs ← Decoder.counted TxInput.decoder
  if inputs.isEmpty then
    -- The count read was the marker.
    let flag ← Decoder.byte
    if flag = 1 then witnessBody version else throw (.badFlag flag)
  else
    let outputs ← Decoder.counted TxOutput.decoder
    let lockTime ← Decoder.word32
    return { version, inputs, outputs, lockTime }

def decode (bytes : Bytes) : Except DecodeError Transaction := decoder.decodeAll bytes

def baseSize (t : Transaction) : Nat :=
  8 + CompactSize.width t.inputs.length + sumOver TxInput.size t.inputs +
  CompactSize.width t.outputs.length + sumOver TxOutput.size t.outputs

def totalSize (t : Transaction) : Nat :=
  if t.usesWitnessForm then
    t.baseSize + 2 + sumOver (fun input => Witness.size input.witness) t.inputs
  else t.baseSize

def txid (t : Transaction) : Txid := Hash256.double t.encodePlain

def wtxid (t : Transaction) : Hash256 := Hash256.double t.encode

end Transaction

def weight (baseSize totalSize : Nat) : Nat := 3 * baseSize + totalSize

def virtualSize (weight : Nat) : Nat := (weight + 3) / 4

end ChainLens
