import ChainLens.Explorer.Addresses
import ChainLens.Explorer.Blocks

/-!
The operations of the explorer as values, so that calls can be listed and made one after the other.
-/

namespace ChainLens.Explorer

inductive Call
  | status
  | transaction (id : Txid)
  | block (ref : BlockRef)
  | fullBlock (ref : BlockRef)
  | summaries (start : Height) (limit : UInt32)
  | history (address : String)
  | transactions (address : String)
  | rank (address : String)
  | unspent (address : String)
  | ranking (offset limit : UInt64)
  | broadcast (text : String)
  deriving DecidableEq

namespace Call

abbrev Result : Call → Type
  | .status => Height
  | .transaction _ => TransactionReport
  | .block _ => BlockReport
  | .fullBlock _ => FullBlockReport
  | .summaries _ _ => List BlockSummary
  | .history _ => List Txid
  | .transactions _ => List TransactionReport
  | .rank _ => Option UInt64
  | .unspent _ => List UnspentReport
  | .ranking _ _ => RankingPage
  | .broadcast _ => Txid

def lookup (network : Network) : (call : Call) → Lookup call.Result
  | .status => Explorer.status
  | .transaction id => Explorer.transaction network id
  | .block ref => Explorer.block ref
  | .fullBlock ref => Explorer.fullBlock network ref
  | .summaries start limit => Explorer.summaries start limit
  | .history address => Explorer.history network address
  | .transactions address => Explorer.transactions network address
  | .rank address => Explorer.rank network address
  | .unspent address => Explorer.unspent network address
  | .ranking offset limit => Explorer.ranking network offset limit
  | .broadcast text => Explorer.broadcast text

abbrev Outcome : Type := (call : Call) × Except Failure call.Result

end Call

/-- Calls made one after the other, whatever becomes of them. -/
def session (network : Network) (calls : List Call) : Dialogue Query.Reply (List Call.Outcome) :=
  calls.mapM fun call => do
    let result ← (call.lookup network).run
    return ⟨call, result⟩

end ChainLens.Explorer
