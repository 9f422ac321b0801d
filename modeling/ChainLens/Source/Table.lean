import ChainLens.Source.Query

/-!
A source that answers from tables. What is not in a table is missing under the table's name and the
key; questions for which there is no table are not supported.
-/

namespace ChainLens

/-- An entry of a table: an answer, or the failure that stands in its place. -/
abbrev Entries (κ α : Type) : Type := List (κ × Except Failure α)

structure Table where
  tip : Option (Except Failure Height)
  transactionBytes : Entries Txid Bytes
  locations : Entries Txid Location
  blockBytes : Entries BlockHash Bytes
  blockFacts : Entries BlockHash BlockFacts
  blocksAt : Entries Height BlockHash

namespace Table

def find {κ α : Type} [DecidableEq κ] (name : String) (show' : κ → String)
    (entries : Entries κ α) (key : κ) :
    Except Failure α :=
  match entries.lookup key with
  | some entry => entry
  | none => .error (.notFound (.entry name (show' key)))

def answer (t : Table) : (q : Query) → q.Reply
  | .transactionBytes id => find "tx_bytes" Hash256.display t.transactionBytes id
  | .location id => find "tx_meta" Hash256.display t.locations id
  | .transaction id => do
    let bytes ← find "tx_bytes" Hash256.display t.transactionBytes id
    let location ← find "tx_meta" Hash256.display t.locations id
    return (bytes, location)
  | .blockBytes hash => find "block_bytes" Hash256.display t.blockBytes hash
  | .blockFacts hash => find "block_meta" Hash256.display t.blockFacts hash
  | .blockAt height => find "heights" (fun h => toString h.toNat) t.blocksAt height
  | .heightOf hash => do
    let facts ← find "block_meta" Hash256.display t.blockFacts hash
    return facts.height
  | .tip => t.tip.getD (.error (.notFound (.entry "status" "blocks")))
  | .history _ => .error (.unsupported .history)
  | .unspent _ => .error (.unsupported .unspent)
  | .holderCount => .error (.unsupported .ranking)
  | .holders _ _ => .error (.unsupported .ranking)
  | .rank _ => .error (.unsupported .ranking)
  | .broadcast _ => .error (.unsupported .broadcast)

def source {m : Type → Type} [Monad m] (t : Table) : Source m where
  answer q := pure (t.answer q)

end Table
end ChainLens
