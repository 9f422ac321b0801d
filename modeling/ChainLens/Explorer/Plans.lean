import ChainLens.Explorer.Call
import ChainLens.Plan

/-!
The operations of the explorer as they are carried out, with all that goes on side by side: the
transactions that inputs spend from and the height, the bytes of a block and the facts about it,
and the transactions or blocks of a list.
-/

namespace ChainLens.Explorer.Plans

def lookUpSpent : List Txid → Plan Spent
  | [] => pure []
  | id :: rest =>
    .join (.query (.transactionBytes id)) (lookUpSpent rest) fun reply others =>
      .done (others.map ((id, spentRecord? reply) :: ·))

def reportInputs (network : Network) (inputs : List TxInput) : Plan (List InputReport) := do
  let spent ← lookUpSpent (spentTxids inputs)
  return inputs.map (reportInput network spent)

def report (network : Network) (record : TxRecord) (location : Location) :
    Plan TransactionReport :=
  .join (reportInputs network record.inputs) (.ofLookup (confirmedHeight location))
    fun inputs height => .ofLookup do
      let inputs ← MonadExcept.ofExcept inputs
      let height ← MonadExcept.ofExcept height
      concludeReport network record location inputs height

def transaction (network : Network) (id : Txid) : Plan TransactionReport := do
  let (bytes, location) ← Plan.query (.transaction id)
  match TxRecord.read bytes with
  | .ok record => report network record location
  | .error flaw => .done (.error (.notFound (.transaction id flaw)))

def transactions (network : Network) (address : String) : Plan (List TransactionReport) := do
  let ids ← Plan.ofLookup (history network address)
  Plan.tryJoinAll (ids.map (transaction network))

def load (hash : BlockHash) : Plan LoadedBlock :=
  .join (.query (.blockBytes hash)) (.query (.blockFacts hash)) fun bytes facts => .ofLookup do
    let facts ← MonadExcept.ofExcept facts
    loadFrom hash bytes facts

def blockByHash (hash : BlockHash) : Plan BlockReport := do
  return (← load hash).report

def block (ref : BlockRef) : Plan BlockReport := do
  blockByHash (← Plan.ofLookup (resolve ref))

def listedTransaction (network : Network) (location : Location) (id : Txid) :
    Plan TransactionReport := do
  let bytes ← Plan.query (.transactionBytes id)
  let record ← Plan.ofLookup (Lookup.sound (TxRecord.read bytes))
  report network record location

def fullBlock (network : Network) (ref : BlockRef) : Plan FullBlockReport := do
  let loaded ← load (← Plan.ofLookup (resolve ref))
  let block := loaded.report
  let location : Location := { block := some block.hash, height := some block.height }
  let transactions ← match loaded.transactions with
    | some ts =>
      Plan.tryJoinAll (ts.map fun t => report network (TxRecord.ofTransaction t) location)
    | none => Plan.tryJoinAll (block.txids.map (listedTransaction network location))
  return { block, transactions }

def summaryAt (height : Nat) : Plan BlockSummary := do
  let hash ← Plan.query (.blockAt (UInt32.ofNat height))
  return (← blockByHash hash).summary

def summaries (start : Height) (limit : UInt32) : Plan (List BlockSummary) := do
  if limit = 0 then .done (.error (.invalid .emptyPage))
  else
    let tip ← Plan.query .tip
    if tip < start then return []
    else
      let stop := min (addUpTo32 start.toNat limit.toNat) (addUpTo32 tip.toNat 1)
      Plan.tryJoinAll ((List.range' start.toNat (stop - start.toNat)).map summaryAt)

end Plans

def Call.plan (network : Network) : (call : Call) → Plan call.Result
  | .transaction id => Plans.transaction network id
  | .block ref => Plans.block ref
  | .fullBlock ref => Plans.fullBlock network ref
  | .summaries start limit => Plans.summaries start limit
  | .transactions address => Plans.transactions network address
  | call => .ofLookup (call.lookup network)

end ChainLens.Explorer
