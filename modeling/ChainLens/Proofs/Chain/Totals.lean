import ChainLens.Chain.Amount
import ChainLens.Encoding.CompactSize
import Mathlib.Algebra.Ring.Int.Defs
import Mathlib.Algebra.Ring.Nat

/-!
Totals of amounts and the fee between two of them, against exact numbers. Adding amounts in order is
given up just when their exact sum leaves 64 bits, at whichever amount that happens; a fee is
refused for one of three causes, each of which is told by the exact sums.
-/

namespace ChainLens

theorem sum_over_eq_sum {α : Type} (size : α → Nat) (items : List α) :
    sumOver size items = (items.map size).sum := by
  induction items with
  | nil => rfl
  | cons a rest ih => rw [sumOver, ih, List.map_cons, List.sum_cons]

def exactTotal (amounts : List UInt64) : Nat := sumOver UInt64.toNat amounts

theorem exact_total_cons (amount : UInt64) (amounts : List UInt64) :
    exactTotal (amount :: amounts) = amount.toNat + exactTotal amounts := rfl

def exactFee (ins outs : List UInt64) : Int := (exactTotal ins : Int) - exactTotal outs

/-- Added to what has been summed up so far, the amounts are given up just when the exact sum leaves
64 bits. -/
theorem foldlM_add_amounts (start : UInt64) (amounts : List UInt64) :
    amounts.foldlM addAmounts? start =
      if start.toNat + exactTotal amounts < UInt64.size then
        some (UInt64.ofNat (start.toNat + exactTotal amounts))
      else none := by
  induction amounts generalizing start with
  | nil =>
    have hstart : start.toNat + exactTotal [] < UInt64.size := start.toNat_lt_size
    have hsame : UInt64.ofNat (start.toNat + exactTotal []) = start := UInt64.ofNat_toNat
    rw [if_pos hstart, hsame]
    rfl
  | cons amount amounts ih =>
    rw [List.foldlM_cons, exact_total_cons, addAmounts?]
    by_cases hfits : start.toNat + amount.toNat < UInt64.size
    · have hsum : (start + amount).toNat = start.toNat + amount.toNat := by
        rw [UInt64.toNat_add]
        exact Nat.mod_eq_of_lt hfits
      rw [if_pos hfits]
      change amounts.foldlM addAmounts? (start + amount) = _
      rw [ih, hsum, Nat.add_assoc]
    · -- no later amount brings the sum back below the bound
      have hover : ¬ start.toNat + (amount.toNat + exactTotal amounts) < UInt64.size := by omega
      rw [if_neg hfits, if_neg hover]
      rfl

/-- The running total is the exact one if that has 64 bits, and none otherwise. -/
theorem total_eq (amounts : List UInt64) :
    total? amounts = if exactTotal amounts < UInt64.size then
      some (UInt64.ofNat (exactTotal amounts)) else none := by
  have hzero : (0 : UInt64).toNat + exactTotal amounts = exactTotal amounts := Nat.zero_add _
  rw [total?, foldlM_add_amounts, hzero]

theorem total_eq_none_iff {amounts : List UInt64} :
    total? amounts = none ↔ UInt64.size ≤ exactTotal amounts := by
  rw [total_eq]
  by_cases hfits : exactTotal amounts < UInt64.size
  · simp only [if_pos hfits, reduceCtorEq, false_iff]
    exact Nat.not_le.mpr hfits
  · simp only [if_neg hfits, true_iff]
    exact Nat.le_of_not_lt hfits

theorem total_eq_some_iff {amounts : List UInt64} {total : UInt64} :
    total? amounts = some total ↔ total.toNat = exactTotal amounts := by
  rw [total_eq]
  by_cases hfits : exactTotal amounts < UInt64.size
  · rw [if_pos hfits, Option.some.injEq]
    constructor
    · intro h
      rw [← h]
      exact UInt64.toNat_ofNat_of_lt' hfits
    · intro h
      rw [← h]
      exact UInt64.ofNat_toNat
  · have hbound := total.toNat_lt_size
    simp only [if_neg hfits, reduceCtorEq, false_iff]
    omega

inductive FeeFault (ins outs : List UInt64) : Flaw → Prop
  | inputs (hins : UInt64.size ≤ exactTotal ins) : FeeFault ins outs .inputTotal
  | outputs (hins : exactTotal ins < UInt64.size) (houts : UInt64.size ≤ exactTotal outs) :
    FeeFault ins outs .outputTotal
  /-- The totals fit, and the difference between them does not fit into 64 bits with a sign. -/
  | difference (hins : exactTotal ins < UInt64.size) (houts : exactTotal outs < UInt64.size)
      (hfee : exactFee ins outs < Int64.minValue.toInt ∨ Int64.maxValue.toInt < exactFee ins outs) :
    FeeFault ins outs (.fee (exactTotal ins) (exactTotal outs))

/-- The fee of amounts whose totals fit. -/
theorem fee_of_totals {ins outs : List UInt64} (hins : exactTotal ins < UInt64.size)
    (houts : exactTotal outs < UInt64.size) :
    fee ins outs =
      if Int64.minValue.toInt ≤ exactFee ins outs ∧ exactFee ins outs ≤ Int64.maxValue.toInt then
        .ok (exactFee ins outs)
      else .error (.fee (exactTotal ins) (exactTotal outs)) := by
  have hi : (UInt64.ofNat (exactTotal ins)).toNat = exactTotal ins := UInt64.toNat_ofNat_of_lt' hins
  have ho : (UInt64.ofNat (exactTotal outs)).toNat = exactTotal outs :=
    UInt64.toNat_ofNat_of_lt' houts
  have hit : total? ins = some (UInt64.ofNat (exactTotal ins)) := total_eq_some_iff.mpr hi
  have hot : total? outs = some (UInt64.ofNat (exactTotal outs)) := total_eq_some_iff.mpr ho
  simp only [fee, hit, hot, hi, ho]
  rfl

/-- A fee is refused for one of the three causes, and for the first of them that applies. -/
theorem fee_eq_error_iff {ins outs : List UInt64} {flaw : Flaw} :
    fee ins outs = .error flaw ↔ FeeFault ins outs flaw := by
  -- inputs are added first, then outputs, and the difference is taken last
  by_cases hins : exactTotal ins < UInt64.size
  · by_cases houts : exactTotal outs < UInt64.size
    · rw [fee_of_totals hins houts]
      by_cases hfee : Int64.minValue.toInt ≤ exactFee ins outs ∧
        exactFee ins outs ≤ Int64.maxValue.toInt
      · rw [if_pos hfee]
        constructor
        · intro h
          cases h
        · intro h
          cases h <;> omega
      · rw [if_neg hfee]
        constructor
        · intro h
          obtain rfl := Except.error.inj h
          exact .difference hins houts (by omega)
        · intro h
          cases h with
          | inputs hover => omega
          | outputs _ hover => omega
          | difference _ _ _ => rfl
    · have hit : ∃ total, total? ins = some total :=
        ⟨_, total_eq_some_iff.mpr (UInt64.toNat_ofNat_of_lt' hins)⟩
      have hot : total? outs = none := total_eq_none_iff.mpr (Nat.le_of_not_lt houts)
      obtain ⟨total, hit⟩ := hit
      simp only [fee, hit, hot, Except.error.injEq]
      constructor
      · rintro rfl
        exact .outputs hins (Nat.le_of_not_lt houts)
      · intro h
        cases h with
        | inputs hover => omega
        | outputs _ _ => rfl
        | difference _ hfits _ => omega
  · have hit : total? ins = none := total_eq_none_iff.mpr (Nat.le_of_not_lt hins)
    simp only [fee, hit, Except.error.injEq]
    constructor
    · rintro rfl
      exact .inputs (Nat.le_of_not_lt hins)
    · intro h
      cases h with
      | inputs _ => rfl
      | outputs hfits _ => omega
      | difference hfits _ _ => omega

/-- Both totals have 64 bits, and so has the difference between them, with its sign. -/
structure HasFee (ins outs : List UInt64) : Prop where
  ins_le : exactTotal ins ≤ 2 ^ 64 - 1
  outs_le : exactTotal outs ≤ 2 ^ 64 - 1
  least_le : -2 ^ 63 ≤ exactFee ins outs
  le_greatest : exactFee ins outs ≤ 2 ^ 63 - 1

/-- Amounts have a fee just when all of it fits, and then it is the exact difference of the exact
sums. -/
theorem fee_eq_ok_iff {ins outs : List UInt64} {f : Int} :
    fee ins outs = .ok f ↔ HasFee ins outs ∧ f = exactFee ins outs := by
  have hsize : UInt64.size = 2 ^ 64 := rfl
  have hleast : Int64.minValue.toInt = -2 ^ 63 := rfl
  have hgreatest : Int64.maxValue.toInt = 2 ^ 63 - 1 := rfl
  constructor
  · intro h
    have hfault (flaw : Flaw) : ¬ FeeFault ins outs flaw := by
      intro hf
      rw [fee_eq_error_iff.mpr hf] at h
      cases h
    have hins : exactTotal ins < UInt64.size :=
      Nat.lt_of_not_le fun hover => hfault _ (.inputs hover)
    have houts : exactTotal outs < UInt64.size :=
      Nat.lt_of_not_le fun hover => hfault _ (.outputs hins hover)
    rw [fee_of_totals hins houts, hleast, hgreatest] at h
    split at h
    · next hfits =>
      exact ⟨⟨by omega, by omega, hfits.1, hfits.2⟩, (Except.ok.inj h).symm⟩
    · cases h
  · intro h
    obtain ⟨hfits, rfl⟩ := h
    have hins : exactTotal ins < UInt64.size := by
      have hle := hfits.ins_le
      omega
    have houts : exactTotal outs < UInt64.size := by
      have hle := hfits.outs_le
      omega
    rw [fee_of_totals hins houts, hleast, hgreatest, if_pos ⟨hfits.least_le, hfits.le_greatest⟩]

/-- A fee is the exact difference of the exact sums. -/
theorem eq_exact_fee_of_fee {ins outs : List UInt64} {f : Int} (h : fee ins outs = .ok f) :
    f = exactFee ins outs :=
  (fee_eq_ok_iff.mp h).2

/-- Of the amounts nothing but their exact sums enters into the fee. -/
theorem fee_congr {ins ins' outs outs' : List UInt64} (hins : exactTotal ins = exactTotal ins')
    (houts : exactTotal outs = exactTotal outs') : fee ins outs = fee ins' outs' := by
  rw [fee, fee, total_eq ins, total_eq outs, hins, houts, ← total_eq ins', ← total_eq outs']

/-- The order of amounts does not matter to their sum. -/
theorem exact_total_perm {amounts amounts' : List UInt64} (h : amounts.Perm amounts') :
    exactTotal amounts = exactTotal amounts' := by
  rw [exactTotal, exactTotal, sum_over_eq_sum, sum_over_eq_sum]
  exact (h.map UInt64.toNat).sum_nat

end ChainLens
