import ChainLens.Proofs.Explorer.ReportForm

/-!
Fees against exact numbers. Of the amounts that go in and out it is only their exact sums that
decide whether there is a fee and which, so neither order matters; and what mints new amounts spends
none, so that its fee is what it pays out, taken negatively.
-/

namespace ChainLens

def TxRecord.OnlyMints (record : TxRecord) : Prop :=
  ∀ input ∈ record.inputs, input.isCoinbase = true

instance (record : TxRecord) : Decidable record.OnlyMints :=
  inferInstanceAs (Decidable (∀ input ∈ record.inputs, input.isCoinbase = true))

namespace Explorer

open Lookup

/-- Whatever else is known, inputs that mint put in nothing. -/
theorem total_of_only_mints {record : TxRecord} (h : record.OnlyMints) (network : Network)
    (spent : Spent) :
    exactTotal (amountsIn (record.inputs.map (reportInput network spent))) = 0 := by
  rw [exactTotal, sum_over_eq_sum, List.sum_eq_zero_iff_forall_eq_nat]
  intro n hn
  simp only [amountsIn, List.map_map, List.mem_map] at hn
  obtain ⟨input, hinput, rfl⟩ := hn
  simp only [Function.comp_apply, report_input_minted network spent (h input hinput)]
  rfl

/-- What only mints has a fee when it pays out no more than 2^63, and that sum is the fee, taken
negatively. -/
theorem fee_of_only_mints {record : TxRecord} (h : record.OnlyMints) (network : Network)
    (spent : Spent) (f : Int) :
    fee (amountsIn (record.inputs.map (reportInput network spent))) (amountsOut record) = .ok f ↔
      exactTotal (amountsOut record) ≤ 2 ^ 63 ∧ f = -(exactTotal (amountsOut record) : Int) := by
  have hzero := total_of_only_mints h network spent
  have hexact : exactFee (amountsIn (record.inputs.map (reportInput network spent)))
      (amountsOut record) =
      -(exactTotal (amountsOut record) : Int) := by
    rw [exactFee, hzero]
    exact Int.zero_sub _
  rw [fee_eq_ok_iff, hexact]
  -- of the four bounds only that of the least fee can fail, and it is the narrower one for what
  -- goes out
  constructor
  · intro hfee
    obtain ⟨hfits, rfl⟩ := hfee
    have hleast := hfits.least_le
    rw [hexact] at hleast
    exact ⟨by omega, rfl⟩
  · intro hfee
    obtain ⟨hle, rfl⟩ := hfee
    have hfits : HasFee (amountsIn (record.inputs.map (reportInput network spent)))
        (amountsOut record) := by
      constructor
      · omega
      · omega
      · omega
      · omega
    exact ⟨hfits, rfl⟩

/-- There is a fee just when both exact sums have 64 bits and their exact difference has, with its
sign; it is that difference. Else the amounts are malformed. The order of the amounts does not
matter. A transaction that only mints is reported with what it pays out as a negative fee. -/
theorem fees_are_exact (ins outs : List UInt64) :
    (∀ f, fee ins outs = .ok f ↔ HasFee ins outs ∧ f = exactFee ins outs) ∧
      (¬ HasFee ins outs → ∃ flaw, fee ins outs = .error flaw ∧ FeeFault ins outs flaw) ∧
      (∀ ins' outs', ins.Perm ins' → outs.Perm outs' → fee ins outs = fee ins' outs') ∧
      ∀ (network : Network) (record : TxRecord), record.OnlyMints → amountsOut record = outs →
        (∀ spent f, fee (amountsIn (record.inputs.map (reportInput network spent))) outs = .ok f ↔
          exactTotal outs ≤ 2 ^ 63 ∧ f = -(exactTotal outs : Int)) ∧
        ∀ location lines r, (report network record location).Succeeds lines r →
        r.fee = -(exactTotal outs : Int) := by
  refine ⟨fun _ => fee_eq_ok_iff, ?_, fun _ _ hins houts =>
      fee_congr (exact_total_perm hins) (exact_total_perm houts),
    ?_⟩
  · intro hnone
    cases hfee : fee ins outs with
    | ok f => exact absurd (fee_eq_ok_iff.mp hfee).1 hnone
    | error flaw => exact ⟨flaw, rfl, fee_eq_error_iff.mp hfee⟩
  · rintro network record hmints rfl
    refine ⟨fee_of_only_mints hmints network, ?_⟩
    intro location lines r hr
    obtain ⟨_, spent, _, height, f, -, -, -, hfee, rfl⟩ := succeeds_report.mp hr
    exact ((fee_of_only_mints hmints network spent f).mp hfee).2

/-- Two inputs that mint, and outputs that come to the least fee there is. -/
def mintedTwice : Transaction where
  version := 1
  inputs := [⟨Hash256.zero, 0xffffffff, [0x51], 0xffffffff, []⟩, ⟨Hash256.zero, 0, [], 7, []⟩]
  outputs := [⟨0x4000000000000000, [0x51]⟩, ⟨0x4000000000000000, []⟩]
  lockTime := 0

/-- The greatest fee, the least fee, and a sum that has no fee. -/
theorem fees_are_exact_at_the_bounds :
    fee [0xffffffffffffffff] [0x8000000000000000] = .ok (2 ^ 63 - 1) ∧
      (∃ flaw, fee [0xffffffffffffffff, 1] [2] = .error flaw) ∧
      fee [3, 5] [2, 4] = fee [5, 3] [4, 2] ∧
      (TxRecord.ofTransaction mintedTwice).OnlyMints ∧
      ∃ r, (report .regtest (TxRecord.ofTransaction mintedTwice) ⟨none, none⟩).Succeeds [] r ∧
      r.fee = -2 ^ 63 := by
  have hgreatest : HasFee [0xffffffffffffffff] [0x8000000000000000] :=
    ⟨by decide, by decide, by decide, by decide⟩
  have hover : ¬ HasFee [0xffffffffffffffff, 1] [2] := by
    intro h
    exact absurd h.ins_le (by decide)
  have hmints : (TxRecord.ofTransaction mintedTwice).OnlyMints := by decide
  have hpaid : exactTotal (amountsOut (TxRecord.ofTransaction mintedTwice)) = 2 ^ 63 := by decide
  obtain ⟨flaw, hflaw, -⟩ := (fees_are_exact [0xffffffffffffffff, 1] [2]).2.1 hover
  obtain ⟨hfee, hreport⟩ := (fees_are_exact [] _).2.2.2 .regtest _ hmints rfl
  rw [hpaid] at hfee hreport
  -- nothing is asked about inputs that mint, nor about a transaction that no block has
  have hspent : (lookUpSpent (spentTxids mintedTwice.inputs)).Succeeds [] [] := by
    have hnone : spentTxids mintedTwice.inputs = [] := by decide
    rw [hnone]
    exact succeeds_pure.mpr ⟨rfl, rfl⟩
  have hheight : (confirmedHeight ⟨none, none⟩).Succeeds [] none := succeeds_pure.mpr ⟨rfl, rfl⟩
  have hr : (report .regtest (TxRecord.ofTransaction mintedTwice) ⟨none, none⟩).Succeeds []
      (reportWith .regtest
      (TxRecord.ofTransaction mintedTwice) none (mintedTwice.inputs.map (reportInput .regtest []))
        none (-2 ^ 63)) :=
    succeeds_report.mpr ⟨[], [], [], none, -2 ^ 63, rfl, hspent, hheight,
      (hfee [] _).mpr ⟨Nat.le_refl _, rfl⟩, rfl⟩
  refine ⟨((fees_are_exact _ _).1 _).mpr ⟨hgreatest, by decide⟩, ⟨flaw, hflaw⟩, ?_, hmints, _, hr,
    hreport _ _ _ hr⟩
  exact (fees_are_exact [3, 5] [2, 4]).2.2.1 _ _ (.swap 5 3 []) (.swap 4 2 [])

end Explorer
end ChainLens
