import ChainLens.Chain.BlockRef
import ChainLens.Chain.Record
import ChainLens.Dialogue

/-!
The questions that can be put to a source of chain data, and what a source is: an answer to each of
them.
-/

namespace ChainLens

/-- Where a transaction stands in the chain; both fields are absent while it is unconfirmed. -/
structure Location where
  block : Option BlockHash
  height : Option Height
  deriving DecidableEq

structure BlockFacts where
  hash : BlockHash
  height : Height
  size : Nat
  strippedSize : Nat
  weight : Nat
  /-- The serialized header, from sources that do not serve whole blocks. -/
  header : Option Bytes
  /-- The transactions in order; sources that serve whole blocks may leave them out. -/
  txids : List Txid
  deriving DecidableEq

structure Unspent where
  txid : Txid
  index : UInt32
  value : UInt64
  deriving DecidableEq

structure Holding where
  script : Script
  value : UInt64
  deriving DecidableEq

inductive Query
  /-- The serialization of a transaction. -/
  | transactionBytes (id : Txid)
  | location (id : Txid)
  /-- The serialization and the location together. -/
  | transaction (id : Txid)
  /-- The serialization of a block. -/
  | blockBytes (hash : BlockHash)
  | blockFacts (hash : BlockHash)
  | blockAt (height : Height)
  | heightOf (hash : BlockHash)
  /-- The height of the last block. -/
  | tip
  /-- The transactions that touch a script. -/
  | history (script : Script)
  | unspent (script : Script)
  /-- The number of scripts that hold something. -/
  | holderCount
  /-- A page of the scripts in order of what they hold, the richest first. -/
  | holders (offset limit : UInt64)
  /-- The place of a script in that order, counted from one. -/
  | rank (script : Script)
  /-- Hands a transaction in hexadecimal digits on to the network. -/
  | broadcast (hex : String)
  deriving DecidableEq

namespace Query

abbrev Result : Query → Type
  | .transactionBytes _ => Bytes
  | .location _ => Location
  | .transaction _ => Bytes × Location
  | .blockBytes _ => Bytes
  | .blockFacts _ => BlockFacts
  | .blockAt _ => BlockHash
  | .heightOf _ => Height
  | .tip => Height
  | .history _ => List Txid
  | .unspent _ => List ChainLens.Unspent
  | .holderCount => UInt64
  | .holders _ _ => List Holding
  | .rank _ => Option UInt64
  | .broadcast _ => Txid

abbrev Reply (q : Query) : Type := Except Failure q.Result

end Query

/-- Answers to all questions, in a monad that carries whatever the source remembers. -/
structure Source (m : Type → Type) where
  answer : (q : Query) → m q.Reply

abbrev Lookup (α : Type) : Type := ExceptT Failure (Dialogue Query.Reply) α

namespace Lookup

def ask (q : Query) : Lookup q.Result := ExceptT.mk (Dialogue.send q)

def attempt (q : Query) : Lookup q.Reply := ExceptT.lift (Dialogue.send q)

def accept {α : Type} : Except Refusal α → Lookup α
  | .ok a => pure a
  | .error refusal => throw (.invalid refusal)

def sound {α : Type} : Except Flaw α → Lookup α
  | .ok a => pure a
  | .error flaw => throw (.malformed flaw)

def runWith {m : Type → Type} [Monad m] {α : Type} (source : Source m) (lookup : Lookup α) :
    m (Except Failure α) :=
  Dialogue.run source.answer lookup.run

end Lookup
end ChainLens
