import ChainLens.Address.Basic
import ChainLens.Message.Arc4

/-!
Messages hidden in a transaction: the data of the first null-data output, enciphered under the first
input's transaction id as it is displayed. A message begins with eight known bytes.
-/

namespace ChainLens

structure Message where
  /-- The address of the first output, unless that output carries the message. -/
  destination : Option String
  payload : Bytes
  deriving DecidableEq

namespace Message

def signature : Bytes := [0x43, 0x4e, 0x54, 0x52, 0x50, 0x52, 0x54, 0x59]

def carrier? (outputs : List TxOutput) : Option (Nat × Script) :=
  (outputs.zipIdx.find? fun (output, _) => Template.of output.script = .nullData).map
    fun (output, n) => (n, output.script)

def unsigned? (plain : Bytes) : Option Bytes :=
  if signature.isPrefixOf plain then some (plain.drop signature.length) else none

/-- Looks for a message; any mismatch means that there is none. -/
def find? (network : Network) (inputs : List TxInput) (outputs : List TxOutput) :
    Option Message := do
  let first ← inputs.head?
  guard (!first.isCoinbase)
  let (n, script) ← carrier? outputs
  let data := Script.pushedData script
  guard (signature.length < data.length)
  let (plain, _) := (Arc4.ofKey first.previousTxid.bytes.reverse).apply data
  let payload ← unsigned? plain
  let destination :=
    if n = 0 then none else outputs.head?.bind fun o => Script.address? network o.script
  return { destination, payload }

end Message
end ChainLens
