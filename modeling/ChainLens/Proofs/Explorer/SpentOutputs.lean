import ChainLens.Explorer.Transactions
import ChainLens.Proofs.Source.Keyed
import ChainLens.Proofs.Source.Outcome

/-!
What a report of a transaction takes from its source: the transactions that the inputs spend from,
each looked up by its id. A report whose height is known depends on nothing else.
-/

namespace ChainLens.Explorer

open Lookup

def spentFrom (source : Source Id) (inputs : List TxInput) : Spent :=
  (spentTxids inputs).map fun id => (id, spentRecord? (source.answer (.transactionBytes id)))

/-- What is spent is looked up without failure; what cannot be had is noted as unknown. -/
theorem outcome_look_up_spent (source : Source Id) (ids : List Txid) :
    (lookUpSpent ids).outcome source =
      .ok (ids.map fun id => (id, spentRecord? (source.answer (.transactionBytes id)))) := by
  induction ids with
  | nil => rfl
  | cons id ids ih =>
    rw [lookUpSpent, outcome_attempt_bind, outcome_bind, ih]
    rfl

theorem outcome_report_inputs (source : Source Id) (network : Network) (inputs : List TxInput) :
    (reportInputs network inputs).outcome source =
      .ok (inputs.map (reportInput network (spentFrom source inputs))) := by
  simp only [reportInputs, outcome_bind, outcome_look_up_spent, outcome_pure]
  rfl

/-- The report of an input while nothing is known of what it spends. -/
def reportBare (input : TxInput) : InputReport where
  txid := input.previousTxid
  vout := input.previousIndex
  scriptSig := input.scriptSig
  witness := input.witness
  sequence := input.sequence
  coinbase := input.isCoinbase
  value := 0
  address := none
  template := none
  resolved := false

/-! The three ways in which an input is reported. -/

section ReportInput

variable (network : Network) {spent : Spent} {input : TxInput}

theorem report_input_minted (spent : Spent) (hcoinbase : input.isCoinbase = true) :
    reportInput network spent input =
      { reportBare input with address := some coinbaseAddress } := by
  rw [reportInput, if_pos hcoinbase]
  rfl

/-- An input whose output is known is reported with its amount, form and address. -/
theorem report_input_spent {output : TxOutput} (hspends : input.isCoinbase = false)
    (houtput : spentOutput? spent input = some output) :
    reportInput network spent input =
      { reportBare input with
        value := output.value
        template := some (Template.of output.script)
        address := Script.address? network output.script
        resolved := true } := by
  rw [reportInput, if_neg (Bool.eq_false_iff.mp hspends), houtput]
  rfl

/-- An input whose output is not known is reported bare. -/
theorem report_input_unknown (hspends : input.isCoinbase = false)
    (hnone : spentOutput? spent input = none) :
    reportInput network spent input = reportBare input := by
  rw [reportInput, if_neg (Bool.eq_false_iff.mp hspends), hnone]
  rfl

end ReportInput

theorem mem_spent_txids {inputs : List TxInput} {id : Txid} :
    id ∈ spentTxids inputs ↔ ∃ input ∈ inputs, input.isCoinbase = false ∧
    input.previousTxid = id := by
  simp only [spentTxids, List.mem_eraseDups, List.mem_map, List.mem_filter, Bool.not_eq_true',
    and_assoc]

/-- Whatever else inputs spend from, the transaction of one of them is found as the source knows
it. -/
theorem lookup_spent_from (source : Source Id) {inputs : List TxInput} {input : TxInput}
    (hmem : input ∈ inputs)
    (hspends : input.isCoinbase = false) : (spentFrom source inputs).lookup input.previousTxid =
      some (spentRecord? (source.answer (.transactionBytes input.previousTxid))) := by
  have hid : input.previousTxid ∈ spentTxids inputs :=
    mem_spent_txids.mpr ⟨input, hmem, hspends, rfl⟩
  exact lookup_map_of_mem (fun id => spentRecord? (source.answer (.transactionBytes id))) hid

/-- Among others an input is reported as it would be by itself. -/
theorem report_input_alone (source : Source Id) (network : Network) {inputs : List TxInput}
    {input : TxInput}
    (hmem : input ∈ inputs) :
    reportInput network (spentFrom source inputs) input =
      reportInput network (spentFrom source [input]) input := by
  cases hspends : input.isCoinbase with
  | true => rw [report_input_minted network _ hspends, report_input_minted network _ hspends]
  | false =>
    have hmany := lookup_spent_from source hmem hspends
    have hone := lookup_spent_from source (List.mem_singleton.mpr rfl) hspends
    simp only [reportInput, spentOutput?, hmany, hone]

theorem spent_from_congr {a b : Source Id}
    (h : ∀ id, spentRecord? (a.answer (.transactionBytes id)) =
      spentRecord? (b.answer (.transactionBytes id)))
    (inputs : List TxInput) : spentFrom a inputs = spentFrom b inputs := by
  simp only [spentFrom, h]

/-- With its height known, a report asks for nothing but the bytes of transactions. -/
theorem outcome_report_congr {a b : Source Id}
    (h : ∀ id, spentRecord? (a.answer (.transactionBytes id)) =
      spentRecord? (b.answer (.transactionBytes id)))
    (network : Network) (record : TxRecord) (block : Option BlockHash) (height : Height) :
    (report network record ⟨block, some height⟩).outcome a =
      (report network record ⟨block, some height⟩).outcome b := by
  simp only [report, concludeReport, outcome_bind, outcome_report_inputs, spent_from_congr h,
    confirmedHeight, outcome_pure, outcome_sound]

end ChainLens.Explorer
