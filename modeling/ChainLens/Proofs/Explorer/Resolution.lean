import ChainLens.Proofs.Explorer.Identity
import ChainLens.Proofs.Explorer.TrueCopy

/-!
Inputs and the outputs they spend. Every input of a transaction is reported in its place, and its
report follows from what the source serves under the one id that the input names, however often
other inputs name the same.
-/

namespace ChainLens.Explorer

open Lookup

/-- The output that an input spends, as far as the source knows its transaction. -/
def Spends (source : Source Id) (input : TxInput) (output : TxOutput) : Prop :=
  ∃ bytes record, source.answer (.transactionBytes input.previousTxid) = .ok bytes ∧
    TxRecord.read bytes = .ok record ∧ record.outputs[input.previousIndex.toNat]? = some output

/-- The transaction that an input names is served, it reads, and it has an output at the index of
the input. -/
def Spendable (source : Source Id) (input : TxInput) : Prop :=
  ∃ bytes record, source.answer (.transactionBytes input.previousTxid) = .ok bytes ∧
    TxRecord.read bytes = .ok record ∧ input.previousIndex.toNat < record.outputs.length

/-- What the report of an input tells, by the three ways in which an input can be reported. -/
structure Resolution (source : Source Id) (network : Network) (input : TxInput) (r : InputReport) :
    Prop where
  /-- Id, index, script, witness and sequence are the input's own. -/
  copied : r.input = input
  coinbase : r.coinbase = true ↔ input.previousTxid = Hash256.zero
  minted : r.coinbase = true → r.value = 0 ∧ r.address = some "coinbase" ∧ r.template = none ∧
    r.resolved = false
  resolved : r.coinbase = false → (r.resolved = true ↔ Spendable source input)
  spent : r.resolved = true → ∃ output, Spends source input output ∧ r.value = output.value ∧
    r.template = some (Template.of output.script) ∧
      r.address = Script.address? network output.script
  unresolved : r.coinbase = false → r.resolved = false → r.value = 0 ∧ r.address = none ∧
    r.template = none

variable {source : Source Id} {network : Network} {inputs : List TxInput} {input : TxInput}
    {output : TxOutput}

theorem spendable_iff : Spendable source input ↔ ∃ output, Spends source input output := by
  constructor
  · intro h
    obtain ⟨bytes, record, hanswer, hread, hindex⟩ := h
    exact ⟨_, bytes, record, hanswer, hread, List.getElem?_eq_getElem hindex⟩
  · intro h
    obtain ⟨output, bytes, record, hanswer, hread, houtput⟩ := h
    obtain ⟨hindex, -⟩ := List.getElem?_eq_some_iff.mp houtput
    exact ⟨bytes, record, hanswer, hread, hindex⟩

/-- Among all that the inputs spend from, an input finds the output that its own transaction has for
it. -/
theorem spent_output_eq_some (hmem : input ∈ inputs) (hspends : input.isCoinbase = false) :
    spentOutput? (spentFrom source inputs) input = some output ↔ Spends source input output := by
  constructor
  · exact exists_of_spent_output
  · intro h
    obtain ⟨bytes, record, hanswer, hread, houtput⟩ := h
    have hrecord : spentRecord? (source.answer (.transactionBytes input.previousTxid)) =
        some record :=
      spent_record_eq_some.mpr ⟨bytes, hanswer, hread⟩
    have hlookup := lookup_spent_from source hmem hspends
    rw [hrecord] at hlookup
    simp only [spentOutput?, hlookup, Option.bind_eq_bind, Option.bind_some, houtput]

theorem is_coinbase_iff : input.isCoinbase = true ↔ input.previousTxid = Hash256.zero :=
  decide_eq_true_iff

/-- An input that mints is reported as such, whatever is known. -/
theorem resolution_of_coinbase (hcoinbase : input.isCoinbase = true) (spent : Spent) :
    Resolution source network input (reportInput network spent input) := by
  have hcoined : ¬ input.isCoinbase = false := ne_of_eq_of_ne hcoinbase Bool.false_ne_true.symm
  rw [report_input_minted network spent hcoinbase]
  exact { copied := rfl
          coinbase := is_coinbase_iff
          minted := fun _ => ⟨rfl, rfl, rfl, rfl⟩
          resolved := fun h => absurd h hcoined
          spent := fun h => absurd h Bool.false_ne_true
          unresolved := fun h _ => absurd h hcoined }

/-- An input that spends is resolved when its output can be had, and is reported bare otherwise. -/
theorem resolution_of_spending (hmem : input ∈ inputs) (hspends : input.isCoinbase = false) :
    Resolution source network input (reportInput network (spentFrom source inputs) input) := by
  have hordinary : ¬ input.isCoinbase = true := Bool.eq_false_iff.mp hspends
  -- Bytes that are not served, that do not read, or that lack the output are one case here: nothing
  -- was found.
  cases hspent : spentOutput? (spentFrom source inputs) input with
  | some output =>
    have hknown : Spends source input output := (spent_output_eq_some hmem hspends).mp hspent
    rw [report_input_spent network hspends hspent]
    exact { copied := rfl
            coinbase := is_coinbase_iff
            minted := fun h => absurd h hordinary
            resolved := fun _ => iff_of_true rfl (spendable_iff.mpr ⟨output, hknown⟩)
            spent := fun _ => ⟨output, hknown, rfl, rfl, rfl⟩
            unresolved := fun _ h => absurd h.symm Bool.false_ne_true }
  | none =>
    have hunknown : ¬ Spendable source input := by
      intro h
      obtain ⟨output, hknown⟩ := spendable_iff.mp h
      rw [(spent_output_eq_some hmem hspends).mpr hknown] at hspent
      cases hspent
    rw [report_input_unknown network hspends hspent]
    exact { copied := rfl
            coinbase := is_coinbase_iff
            minted := fun h => absurd h hordinary
            resolved := fun _ => iff_of_false Bool.false_ne_true hunknown
            spent := fun h => absurd h Bool.false_ne_true
            unresolved := fun _ _ => ⟨rfl, rfl, rfl⟩ }

/-- Whatever the source answers, all inputs are reported, in order and each by what it spends
itself. -/
theorem inputs_are_resolved (source : Source Id) (network : Network) (inputs : List TxInput) :
    ∃ reports, (reportInputs network inputs).outcome source = .ok reports ∧
      List.Forall₂ (Resolution source network) inputs reports := by
  refine ⟨inputs.map (reportInput network (spentFrom source inputs)),
    outcome_report_inputs source network inputs, ?_⟩
  rw [List.forall₂_map_right_iff, List.forall₂_same]
  intro input hmem
  cases hcoinbase : input.isCoinbase with
  | true => exact resolution_of_coinbase hcoinbase _
  | false => exact resolution_of_spending hmem hcoinbase

end ChainLens.Explorer
