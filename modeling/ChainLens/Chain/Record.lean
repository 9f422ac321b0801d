import ChainLens.Chain.Block
import ChainLens.Failure

/-!
Transactions as they are reported: the fields of a transaction with its names and sizes and the
bytes it was read from. Reading bytes and taking an already read transaction give the same record.
-/

namespace ChainLens

structure TxRecord where
  txid : Txid
  wtxid : Hash256
  version : Int32
  lockTime : UInt32
  hasWitness : Bool
  /-- The length with witnesses. -/
  size : Nat
  /-- The length without witnesses. -/
  baseSize : Nat
  vsize : Nat
  weight : Nat
  inputs : List TxInput
  outputs : List TxOutput
  /-- The bytes the record was read from. -/
  raw : Bytes
  deriving DecidableEq

namespace TxRecord

def describe (t : Transaction) (raw : Bytes) : TxRecord :=
  let weight := ChainLens.weight t.baseSize t.totalSize
  { txid := t.txid
    wtxid := t.wtxid
    version := t.version
    lockTime := t.lockTime
    hasWitness := t.hasWitness
    size := t.totalSize
    baseSize := t.baseSize
    vsize := virtualSize weight
    weight
    inputs := t.inputs
    outputs := t.outputs
    raw }

def ofTransaction (t : Transaction) : TxRecord := describe t t.encode

def read (bytes : Bytes) : Except Flaw TxRecord :=
  match Transaction.decode bytes with
  | .ok t => .ok (describe t bytes)
  | .error error => .error (.transaction error)

def isCoinbase (r : TxRecord) : Bool :=
  match r.inputs with
  | [input] => input.isCoinbase
  | _ => false

end TxRecord

/-- The header in the first eighty bytes; what follows them is not looked at. -/
def Header.read (bytes : Bytes) : Except Flaw Header :=
  match Header.decoder.run bytes with
  | .ok (header, _) => .ok header
  | .error _ => .error (.shortHeader bytes.length)

def Block.read (bytes : Bytes) : Except Flaw Block :=
  match Block.decode bytes with
  | .ok block => .ok block
  | .error error => .error (.block error)

end ChainLens
