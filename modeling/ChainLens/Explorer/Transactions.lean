import ChainLens.Chain.Amount
import ChainLens.Explorer.Report

/-!
Reports of transactions. Each distinct transaction that the inputs spend from is looked up once, and
a failure to get it leaves those inputs unresolved; every other failure is the failure of the
report.
-/

namespace ChainLens.Explorer

def coinbaseAddress : String := "coinbase"

/-- What the inputs spend from: a transaction id, and the transaction if it could be had. -/
abbrev Spent : Type := List (Txid × Option TxRecord)

def spentTxids (inputs : List TxInput) : List Txid :=
  ((inputs.filter fun input => !input.isCoinbase).map TxInput.previousTxid).eraseDups

/-- A transaction from the source, unless it is missing or does not read. -/
def spentRecord? : Except Failure Bytes → Option TxRecord
  | .ok bytes => (TxRecord.read bytes).toOption
  | .error _ => none

def lookUpSpent : List Txid → Lookup Spent
  | [] => return []
  | id :: rest => do
    let reply ← Lookup.attempt (.transactionBytes id)
    let others ← lookUpSpent rest
    return (id, spentRecord? reply) :: others

/-- The output that an input spends, if its transaction is known and has it. -/
def spentOutput? (spent : Spent) (input : TxInput) : Option TxOutput := do
  let record ← (← spent.lookup input.previousTxid)
  record.outputs[input.previousIndex.toNat]?

def reportInput (network : Network) (spent : Spent) (input : TxInput) : InputReport :=
  let bare : InputReport :=
    { txid := input.previousTxid, vout := input.previousIndex, scriptSig := input.scriptSig,
      witness := input.witness, sequence := input.sequence, coinbase := input.isCoinbase,
      value := 0, address := none, template := none, resolved := false }
  if input.isCoinbase then { bare with address := some coinbaseAddress }
  else match spentOutput? spent input with
    | some output =>
      { bare with
        value := output.value
        template := some (Template.of output.script)
        address := Script.address? network output.script
        resolved := true }
    | none => bare

def reportInputs (network : Network) (inputs : List TxInput) : Lookup (List InputReport) := do
  let spent ← lookUpSpent (spentTxids inputs)
  return inputs.map (reportInput network spent)

def reportOutputs (network : Network) (outputs : List TxOutput) : List OutputReport :=
  outputs.zipIdx.map fun (output, n) =>
    { n, value := output.value, script := output.script, template := Template.of output.script,
      address := Script.address? network output.script }

/-- The height of a location: as given, else that of its block, which may have left the chain
since. -/
def confirmedHeight (location : Location) : Lookup (Option Height) :=
  match location.height, location.block with
  | some height, _ => return some height
  | none, none => return none
  | none, some hash => do
    match ← Lookup.attempt (.heightOf hash) with
    | .ok height => return some height
    | .error (.notFound _) => return none
    | .error failure => throw failure

def reportWith (network : Network) (record : TxRecord) (block : Option BlockHash)
    (inputs : List InputReport) (height : Option Height) (fee : Int) : TransactionReport where
  txid := record.txid
  wtxid := record.wtxid
  hex := record.raw
  version := record.version
  lockTime := record.lockTime
  hasWitness := record.hasWitness
  size := record.size
  vsize := record.vsize
  weight := record.weight
  blockHash := block
  confirmedHeight := height
  inputs := inputs
  outputs := reportOutputs network record.outputs
  fee := fee
  embedded := Message.find? network record.inputs record.outputs

/-- What is left of a report when the inputs and the height are known. -/
def concludeReport (network : Network) (record : TxRecord) (location : Location)
    (inputs : List InputReport) (height : Option Height) : Lookup TransactionReport := do
  let outputs := reportOutputs network record.outputs
  let fee ← Lookup.sound (fee (inputs.map InputReport.value) (outputs.map OutputReport.value))
  return reportWith network record location.block inputs height fee

def report (network : Network) (record : TxRecord) (location : Location) :
    Lookup TransactionReport := do
  -- The inputs are looked up even when the height turns out to be the failure of the report.
  let inputs ← reportInputs network record.inputs
  let height ← confirmedHeight location
  concludeReport network record location inputs height

/-- The report of the transaction with the given id. Bytes that do not read count as no such
transaction. -/
def transaction (network : Network) (id : Txid) : Lookup TransactionReport := do
  let (bytes, location) ← Lookup.ask (.transaction id)
  match TxRecord.read bytes with
  | .ok record => report network record location
  | .error flaw => throw (.notFound (.transaction id flaw))

end ChainLens.Explorer
