import ChainLens.Proofs.Explorer.Identity
import ChainLens.Proofs.Explorer.ReportForm

/-!
What it costs when transactions that inputs spend from cannot be had. Two reports of one transaction
are compared, by a source and by one that has lost some transactions. Only the inputs that spend
from these differ, and they are reported as unresolved; the fee falls by what the first source knew
them to put in.
-/

namespace ChainLens

/-- The input as it is reported while the output that it spends is not known. -/
def InputReport.unresolved (input : InputReport) : InputReport :=
  { input with value := 0, address := none, template := none, resolved := false }

namespace Explorer

open Lookup

/-- The second source answers as the first one does, but has lost some transactions: for these it
fails, or serves bytes that do not read. -/
structure Loses (lost : Txid → Prop) (full lacking : Source Id) : Prop where
  /-- The id of zeros, which no transaction has, is not among those lost. -/
  zero : ¬ lost Hash256.zero
  heightOf : ∀ hash, lacking.answer (.heightOf hash) = full.answer (.heightOf hash)
  kept : ∀ id, ¬ lost id → lacking.answer (.transactionBytes id) =
    full.answer (.transactionBytes id)
  gone : ∀ id, lost id → ∀ bytes record, lacking.answer (.transactionBytes id) = .ok bytes →
    TxRecord.read bytes ≠ .ok record

/-- How an input is reported before and after the loss. -/
structure Confined (lost : Txid → Prop) (before after : InputReport) : Prop where
  kept : ¬ lost before.txid → after = before
  gone : lost before.txid → after = before.unresolved

/-- What the resolved inputs that spend from lost transactions put in. -/
def amountLost (lost : Txid → Prop) [DecidablePred lost] (inputs : List InputReport) : Nat :=
  exactTotal (amountsIn (inputs.filter fun input => input.resolved && decide (lost input.txid)))

variable {lost : Txid → Prop} {full lacking source : Source Id} {network : Network}

@[simp] theorem report_input_txid (network : Network) (spent : Spent) (input : TxInput) :
    (reportInput network spent input).txid = input.previousTxid := by
  rw [reportInput]
  split
  · rfl
  · split
    · rfl
    · rfl

/-- An input that is not resolved puts nothing in. -/
theorem value_of_unresolved {spent : Spent} {input : TxInput}
    (h : (reportInput network spent input).resolved = false) :
    (reportInput network spent input).value = 0 := by
  cases hcoinbase : input.isCoinbase with
  | true =>
    rw [report_input_minted network spent hcoinbase]
    rfl
  | false =>
    cases hspent : spentOutput? spent input with
    | none =>
      rw [report_input_unknown network hcoinbase hspent]
      rfl
    | some output =>
      rw [report_input_spent network hcoinbase hspent] at h
      cases h

/-- A lost transaction is not to be had. -/
theorem spent_record_of_gone (h : Loses lost full lacking) {id : Txid} (hid : lost id) :
    spentRecord? (lacking.answer (.transactionBytes id)) = none := by
  cases hrecord : spentRecord? (lacking.answer (.transactionBytes id)) with
  | none => rfl
  | some record =>
    obtain ⟨bytes, hanswer, hread⟩ := spent_record_eq_some.mp hrecord
    exact absurd hread (h.gone id hid bytes record hanswer)

/-- By itself an input is reported alike by both sources, or is unresolved for having lost its
transaction. -/
theorem confined_alone (h : Loses lost full lacking) (network : Network) (input : TxInput) :
    Confined lost (reportInput network (spentFrom full [input]) input)
      (reportInput network (spentFrom lacking [input]) input) := by
  have hself : input ∈ [input] := List.mem_singleton.mpr rfl
  cases hcoinbase : input.isCoinbase with
  | true =>
    have hsame : reportInput network (spentFrom lacking [input]) input =
        reportInput network (spentFrom full [input]) input := by
      rw [report_input_minted network _ hcoinbase, report_input_minted network _ hcoinbase]
    refine ⟨fun _ => hsame, ?_⟩
    -- what a coinbase input names is not lost
    intro hlost
    rw [report_input_txid, of_decide_eq_true hcoinbase] at hlost
    exact absurd hlost h.zero
  | false =>
    have hfull := lookup_spent_from full hself hcoinbase
    have hlacking := lookup_spent_from lacking hself hcoinbase
    constructor
    · intro hkept
      rw [report_input_txid] at hkept
      rw [h.kept _ hkept] at hlacking
      simp only [reportInput, spentOutput?, hcoinbase, hfull, hlacking]
    · intro hlost
      rw [report_input_txid] at hlost
      rw [spent_record_of_gone h hlost] at hlacking
      have hnone : spentOutput? (spentFrom lacking [input]) input =
          none := by simp [spentOutput?, hlacking]
      rw [report_input_unknown network hcoinbase hnone]
      cases hspent : spentOutput? (spentFrom full [input]) input with
      | none =>
        rw [report_input_unknown network hcoinbase hspent]
        rfl
      | some output =>
        rw [report_input_spent network hcoinbase hspent]
        rfl

/-- Inputs that spend from nothing lost are reported as before. -/
theorem confined_inputs (h : Loses lost full lacking) (network : Network) (record : TxRecord) :
    List.Forall₂ (Confined lost) (inputsFrom full network record)
    (inputsFrom lacking network record) := by
  rw [inputsFrom, inputsFrom, List.forall₂_map_left_iff, List.forall₂_map_right_iff,
    List.forall₂_same]
  intro input hinput
  rw [report_input_alone full network hinput, report_input_alone lacking network hinput]
  exact confined_alone h network input

/-- An input that is not resolved puts in nothing. -/
theorem value_of_unresolved_mem {record : TxRecord} {input : InputReport}
    (hinput : input ∈ inputsFrom source network record) (hresolved : input.resolved = false) :
    input.value = 0 := by
  obtain ⟨spending, -, rfl⟩ := List.mem_map.mp hinput
  exact value_of_unresolved hresolved

/-- What goes in before the loss is what goes in after it together with the amount lost. -/
theorem total_of_confined [DecidablePred lost] {before after : List InputReport}
    (h : List.Forall₂ (Confined lost) before after)
    (hvalue : ∀ input ∈ before, input.resolved = false → input.value = 0) :
    exactTotal (amountsIn before) = exactTotal (amountsIn after) + amountLost lost before := by
  induction h with
  | nil => rfl
  | @cons first second before after hfirst _ ih =>
    have hrest := ih fun input hinput => hvalue input (List.mem_cons_of_mem _ hinput)
    have hunresolved := hvalue first List.mem_cons_self
    simp only [amountsIn, amountLost, List.map_cons, exact_total_cons, List.filter_cons] at hrest ⊢
    by_cases hlost : lost first.txid
    · have hsecond : second.value = 0 := by
        rw [hfirst.gone hlost]
        rfl
      have hzero : (0 : UInt64).toNat = 0 := rfl
      rw [hrest, hsecond, hzero]
      -- an input that was not resolved before had no amount to lose
      cases hresolved : first.resolved with
      | true =>
        simp only [decide_true, hlost, Bool.and_self, if_true, List.map_cons, exact_total_cons]
        omega
      | false =>
        rw [hunresolved hresolved, hzero]
        simp
    · have hsame : second = first := hfirst.kept hlost
      rw [hrest, hsame]
      simp only [hlost, decide_false, Bool.and_false, Bool.false_eq_true, if_false]
      omega

/-- The inputs of a transaction are reported whatever a source has lost, and alike but for those
that spend from what is lost. If both reports come about, only these inputs and the fee differ, and
the fee has fallen by the amount lost. -/
theorem losses_are_confined [DecidablePred lost] (h : Loses lost full lacking) (network : Network)
    (record : TxRecord)
    (location : Location) :
    ∃ before after,
      (reportInputs network record.inputs).outcome full = .ok before ∧
      (reportInputs network record.inputs).outcome lacking = .ok after ∧
      before.map InputReport.txid = record.inputs.map TxInput.previousTxid ∧
      List.Forall₂ (Confined lost) before after ∧
      ∀ r r', (report network record location).outcome full = .ok r →
        (report network record location).outcome lacking = .ok r' →
        r.inputs = before ∧ r' = { r with inputs := after, fee := r.fee - amountLost lost before } ∧
          r'.fee ≤ r.fee := by
  have hconfined := confined_inputs h network record
  have htotal := total_of_confined hconfined fun _ => value_of_unresolved_mem
  refine ⟨inputsFrom full network record, inputsFrom lacking network record,
    outcome_report_inputs ..,
    outcome_report_inputs .., ?_, hconfined, ?_⟩
  · rw [inputsFrom, List.map_map]
    apply List.map_congr_left
    intro input _
    exact report_input_txid ..
  · intro r r' hr hr'
    obtain ⟨height, f, hheight, hfee, rfl⟩ := report_eq_ok_iff.mp hr
    obtain ⟨height', f', hheight', hfee', rfl⟩ := report_eq_ok_iff.mp hr'
    -- the height is looked up alike
    have hsame : height' = height := by
      have heq : (confirmedHeight location).outcome lacking =
          (confirmedHeight location).outcome full :=
        outcome_confirmed_height_congr h.heightOf location
      rw [heq, hheight] at hheight'
      exact (Except.ok.inj hheight').symm
    have hfall : f' = f - amountLost lost (inputsFrom full network record) := by
      rw [eq_exact_fee_of_fee hfee, eq_exact_fee_of_fee hfee', exactFee, exactFee, htotal]
      push_cast
      omega
    subst hsame hfall
    refine ⟨rfl, rfl, ?_⟩
    simp only [reportWith]
    omega

/-- Spends what was minted, and in the same transaction an output that the minting does not have. -/
def spending : Transaction where
  version := 2
  inputs := [⟨minted.txid, 0, [], 0xffffffff, []⟩, ⟨minted.txid, 7, [], 0xffffffff, []⟩,
    ⟨Hash256.zero, 0xffffffff, [0x51], 0xffffffff, []⟩]
  outputs := [⟨400, [0x51]⟩]
  lockTime := 0

/-- What was minted is served as a byte that is no transaction. -/
theorem minted_lost :
    Loses (· = minted.txid) (serving minted.txid minted.encode) (serving minted.txid [0]) where
  zero := by decide +kernel
  heightOf _ := rfl
  kept id hid := by
    have hother : (id == minted.txid) = false := beq_false_of_ne hid
    simp only [serving, Table.source, Table.answer, Table.find, List.lookup_cons, hother]
  gone id _ bytes record hanswer := by
    obtain ⟨-, rfl⟩ := find_single (κ := Txid) hanswer
    have hread : TxRecord.read [0] = .error (.transaction .ended) := by rfl
    rw [hread]
    intro h
    cases h

theorem fee_of_spending : ((report .regtest (TxRecord.ofTransaction spending) ⟨none, none⟩).outcome
    (serving minted.txid minted.encode)).toOption.map TransactionReport.fee = some 600 := by
  decide +kernel

theorem fee_of_spending_lost :
    ((report .regtest (TxRecord.ofTransaction spending) ⟨none, none⟩).outcome
    (serving minted.txid [0])).toOption.map TransactionReport.fee = some (-400) := by
  decide +kernel

theorem exists_of_fee {x : Except Failure TransactionReport} {fee : Int}
    (h : x.toOption.map TransactionReport.fee = some fee) : ∃ r, x = .ok r ∧ r.fee = fee := by
  cases x with
  | error failure => cases h
  | ok r => exact ⟨r, rfl, Option.some.inj h⟩

/-- Once the minting is lost, the fee falls below zero by what the minting had paid. -/
theorem losses_are_confined_minted :
    Loses (· = minted.txid) (serving minted.txid minted.encode) (serving minted.txid [0]) ∧
      ∃ r r', (report .regtest (TxRecord.ofTransaction spending) ⟨none, none⟩).outcome
          (serving minted.txid minted.encode) = .ok r ∧
        (report .regtest (TxRecord.ofTransaction spending) ⟨none, none⟩).outcome
          (serving minted.txid [0]) = .ok r' ∧
        r.fee = 600 ∧ r'.fee = -400 ∧ r'.fee ≤ r.fee := by
  obtain ⟨r, hr, hfee⟩ := exists_of_fee fee_of_spending
  obtain ⟨r', hr', hfee'⟩ := exists_of_fee fee_of_spending_lost
  obtain ⟨before, after, -, -, -, -, hreports⟩ :=
    losses_are_confined minted_lost .regtest (TxRecord.ofTransaction spending) ⟨none, none⟩
  exact ⟨minted_lost, r, r', hr, hr', hfee, hfee', (hreports r r' hr hr').2.2⟩

end Explorer
end ChainLens
