import ChainLens.Message.Embedded
import ChainLens.Source.Query

/-!
The records that the explorer returns: transactions with their inputs resolved, blocks, and what
belongs to an address.
-/

namespace ChainLens

structure InputReport where
  txid : Txid
  vout : UInt32
  scriptSig : Script
  witness : Witness
  sequence : UInt32
  coinbase : Bool
  /-- The amount spent; zero while the output is not known. -/
  value : UInt64
  address : Option String
  template : Option Template
  /-- The output spent is known. -/
  resolved : Bool
  deriving DecidableEq

structure OutputReport where
  n : Nat
  value : UInt64
  script : Script
  template : Template
  address : Option String
  deriving DecidableEq

structure TransactionReport where
  txid : Txid
  wtxid : Hash256
  hex : Bytes
  version : Int32
  lockTime : UInt32
  hasWitness : Bool
  size : Nat
  vsize : Nat
  weight : Nat
  blockHash : Option BlockHash
  confirmedHeight : Option Height
  inputs : List InputReport
  outputs : List OutputReport
  /-- What goes in less what comes out, in satoshis. -/
  fee : Int
  embedded : Option Message
  deriving DecidableEq

namespace TransactionReport

def isCoinbase (r : TransactionReport) : Bool :=
  match r.inputs with
  | [input] => input.coinbase
  | _ => false

def feeIsComplete (r : TransactionReport) : Bool :=
  r.inputs.all fun input => input.coinbase || input.resolved

end TransactionReport

structure BlockReport where
  hash : BlockHash
  height : Height
  header : Bytes
  version : Int32
  previous : BlockHash
  merkleRoot : Hash256
  time : UInt32
  bits : UInt32
  nonce : UInt32
  difficulty : Float
  size : Nat
  strippedSize : Nat
  weight : Nat
  txids : List Txid

structure FullBlockReport where
  block : BlockReport
  transactions : List TransactionReport

structure BlockSummary where
  hash : BlockHash
  height : Height
  time : UInt32
  nonce : UInt32
  size : Nat
  strippedSize : Nat
  weight : Nat
  txCount : Nat
  deriving DecidableEq

def BlockReport.summary (b : BlockReport) : BlockSummary :=
  { hash := b.hash, height := b.height, time := b.time, nonce := b.nonce, size := b.size,
    strippedSize := b.strippedSize, weight := b.weight, txCount := b.txids.length }

structure UnspentReport where
  txid : Txid
  vout : UInt32
  value : UInt64
  script : Script
  template : Template
  address : Option String
  deriving DecidableEq

structure HoldingReport where
  script : Script
  address : Option String
  value : UInt64
  deriving DecidableEq

/-- A page of the ranking, with the number of scripts in all of it. -/
structure RankingPage where
  count : UInt64
  entries : List HoldingReport
  deriving DecidableEq

end ChainLens
