import ChainLens.Proofs.Explorer.ReportForm

/-!
Why a transaction is not reported. There are four causes, and each applies only where those before
it do not. What a source answers about the transactions that inputs spend from is never one of them,
nor is a block that is gone.
-/

namespace ChainLens.Explorer

open Lookup

/-- The location names a block without its height, and the source fails to give the height. That it
does not have the block is no failure. -/
def Unplaced (source : Source Id) (location : Location) (failure : Failure) : Prop :=
  ∃ hash, location = ⟨some hash, none⟩ ∧ source.answer (.heightOf hash) = .error failure ∧
    ∀ missing, failure ≠ .notFound missing

/-- The failures of a report, by their causes. -/
inductive Fault (source : Source Id) (network : Network) (id : Txid) : Failure → Prop
  | unserved {failure : Failure} (hserved : source.answer (.transaction id) = .error failure) :
    Fault source network id failure
  | unreadable {bytes : Bytes} {location : Location} {flaw : Flaw}
      (hserved : source.answer (.transaction id) = .ok (bytes, location))
      (hread : TxRecord.read bytes = .error flaw) :
    Fault source network id (.notFound (.transaction id flaw))
  | unplaced {bytes : Bytes} {location : Location} {record : TxRecord} {failure : Failure}
      (hserved : source.answer (.transaction id) = .ok (bytes, location))
      (hread : TxRecord.read bytes = .ok record) (hheight : Unplaced source location failure) :
    Fault source network id failure
  | unbalanced {bytes : Bytes} {location : Location} {record : TxRecord} {flaw : Flaw}
      (hserved : source.answer (.transaction id) = .ok (bytes, location))
      (hread : TxRecord.read bytes = .ok record)
      (hheight : ∀ failure, ¬ Unplaced source location failure)
      (hfee : FeeFault (amountsIn (inputsFrom source network record)) (amountsOut record) flaw) :
    Fault source network id (.malformed flaw)

variable {source : Source Id} {network : Network} {location : Location} {record : TxRecord}
    {failure : Failure}

/-- The height fails only for a block that the source has and cannot place. -/
theorem confirmed_height_eq_error_iff :
    (confirmedHeight location).outcome source = .error failure ↔
    Unplaced source location failure := by
  obtain ⟨block, height⟩ := location
  have hgiven (h : block = none ∨ height ≠ none) : ¬ Unplaced source ⟨block, height⟩ failure := by
    intro hunplaced
    obtain ⟨hash, heq, -⟩ := hunplaced
    cases heq
    obtain h | h := h
    · cases h
    · exact h rfl
  cases height with
  | some height =>
    exact iff_of_false (fun h => by cases h) (hgiven (.inr (Option.some_ne_none height)))
  | none =>
    cases block with
    | none => exact iff_of_false (fun h => by cases h) (hgiven (.inl rfl))
    | some hash =>
      have hasked : Unplaced source ⟨some hash, none⟩ failure ↔
          source.answer (.heightOf hash) = .error failure ∧
            ∀ missing, failure ≠ .notFound missing := by
        constructor
        · intro h
          obtain ⟨other, heq, h⟩ := h
          cases heq
          exact h
        · intro h
          exact ⟨hash, rfl, h⟩
      rw [hasked, confirmedHeight, outcome_attempt_bind]
      cases hanswer : source.answer (.heightOf hash) with
      | ok found => exact iff_of_false (fun h => by cases h) (fun h => by cases h.1)
      | error found =>
        -- of the failures only the one that the block is missing is passed over
        cases found with
        | notFound missing =>
          refine iff_of_false (fun h => by cases h) ?_
          intro h
          exact h.2 missing (Except.error.inj h.1).symm
        | _ =>
          constructor
          · intro h
            obtain rfl := Except.error.inj h
            exact ⟨rfl, fun missing hmissing => by cases hmissing⟩
          · intro h
            exact congrArg Except.error (Except.error.inj h.1)

theorem exists_height_iff :
    (∃ height, (confirmedHeight location).outcome source = .ok height) ↔
      ∀ failure, ¬ Unplaced source location failure := by
  simp only [← confirmed_height_eq_error_iff]
  cases (confirmedHeight location).outcome source with
  | ok height => exact iff_of_true ⟨height, rfl⟩ fun failure h => by cases h
  | error failure =>
    refine iff_of_false ?_ fun h => h failure rfl
    intro h
    obtain ⟨height, h⟩ := h
    cases h

/-- A report fails for its height, or has one and fails for its fee. -/
theorem report_eq_error_iff :
    (report network record location).outcome source = .error failure ↔
      Unplaced source location failure ∨ (∀ other, ¬ Unplaced source location other) ∧
        ∃ flaw, FeeFault (amountsIn (inputsFrom source network record)) (amountsOut record) flaw ∧
          .malformed flaw = failure := by
  have hfee : ((fee (amountsIn (inputsFrom source network record)) (amountsOut record)).mapError
      Failure.malformed =
      .error failure) ↔
          ∃ flaw, FeeFault (amountsIn (inputsFrom source network record)) (amountsOut record) flaw ∧
        .malformed flaw = failure := by
    simp only [mapError_eq_error, fee_eq_error_iff]
  rw [outcome_report, bind_eq_error, confirmed_height_eq_error_iff, ← exists_height_iff, ← hfee]
  apply or_congr_right
  constructor
  · intro h
    obtain ⟨height, hheight, h⟩ := h
    obtain h | ⟨_, _, h⟩ := bind_eq_error.mp h
    · exact ⟨⟨height, hheight⟩, h⟩
    · cases h
  · intro h
    obtain ⟨⟨height, hheight⟩, h⟩ := h
    exact ⟨height, hheight, bind_eq_error.mpr (.inl h)⟩

/-- Bytes that are served and do not read are the whole fault. -/
theorem fault_of_unreadable_iff {id : Txid} {bytes : Bytes} {flaw : Flaw}
    (hserved : source.answer (.transaction id) = Except.ok (bytes, location))
    (hread : TxRecord.read bytes = .error flaw) :
    Fault source network id failure ↔ .notFound (.transaction id flaw) = failure := by
  constructor
  · intro h
    cases h with
    | unserved hfailed => cases hserved.symm.trans hfailed
    | unreadable hother hflaw =>
      cases hserved.symm.trans hother
      cases hread.symm.trans hflaw
      rfl
    | unplaced hother hok _ =>
      cases hserved.symm.trans hother
      cases hread.symm.trans hok
    | unbalanced hother hok _ _ =>
      cases hserved.symm.trans hother
      cases hread.symm.trans hok
  · rintro rfl
    exact .unreadable hserved hread

/-- Where the bytes read, the fault is that of the report. -/
theorem fault_of_read_iff {id : Txid} {bytes : Bytes}
    (hserved : source.answer (.transaction id) = Except.ok (bytes, location))
    (hread : TxRecord.read bytes = .ok record) :
    Fault source network id failure ↔ (report network record location).outcome source =
      .error failure := by
  rw [report_eq_error_iff]
  constructor
  · intro h
    -- a fault tells what was served, which is this and no other
    cases h with
    | unserved hfailed => cases hserved.symm.trans hfailed
    | unreadable hother hflaw =>
      cases hserved.symm.trans hother
      cases hread.symm.trans hflaw
    | unplaced hother hok hheight =>
      cases hserved.symm.trans hother
      cases hread.symm.trans hok
      exact .inl hheight
    | unbalanced hother hok hheight hfee =>
      cases hserved.symm.trans hother
      cases hread.symm.trans hok
      exact .inr ⟨hheight, _, hfee, rfl⟩
  · intro h
    obtain hheight | ⟨hheight, flaw, hfee, rfl⟩ := h
    · exact .unplaced hserved hread hheight
    · exact .unbalanced hserved hread hheight hfee

/-- A transaction fails to be reported for one of the four causes, and then with the failure that
belongs to it. -/
theorem transaction_fails_iff (source : Source Id) (network : Network) (id : Txid)
    (failure : Failure) :
    (transaction network id).outcome source = .error failure ↔ Fault source network id failure := by
  rw [transaction, outcome_ask_bind]
  cases hserved : source.answer (.transaction id) with
  | error found =>
    constructor
    · intro h
      obtain rfl := Except.error.inj h
      exact .unserved hserved
    · intro h
      cases h with
      | unserved hfailed =>
        exact congrArg Except.error (Except.error.inj (hserved.symm.trans hfailed))
      | unreadable hok _ => cases hserved.symm.trans hok
      | unplaced hok _ _ => cases hserved.symm.trans hok
      | unbalanced hok _ _ _ => cases hserved.symm.trans hok
  | ok served =>
    obtain ⟨bytes, location⟩ := served
    cases hread : TxRecord.read bytes with
    | error flaw =>
      rw [fault_of_unreadable_iff hserved hread]
      simp only [Except.bind, hread, outcome_throw, Except.error.injEq]
    | ok record =>
      rw [fault_of_read_iff hserved hread]
      simp only [Except.bind, hread]

end ChainLens.Explorer
