import ChainLens.Address.Bech32
import Mathlib.Algebra.Group.Nat.Defs

/-!
The checksum of segwit addresses. One step of it is linear over exclusive or, and six steps from
zero spell out their values, so the six values of the checksum move the remainder to any constant.
-/

namespace ChainLens.Bech32

def feedback (terms : List (Nat × Nat)) (top : Nat) : Nat :=
  (terms.filter fun (_, i) => top.testBit i).foldl (fun acc (term, _) => acc ^^^ term) 0

theorem foldl_xor_eq (terms : List (Nat × Nat)) (n : Nat) :
    terms.foldl (fun acc (term, _) => acc ^^^ term) n =
      n ^^^ terms.foldl (fun acc (term, _) => acc ^^^ term) 0 := by
  induction terms generalizing n with
  | nil => simp
  | cons t terms ih =>
    rw [List.foldl_cons, List.foldl_cons, ih, ih (0 ^^^ t.1), Nat.zero_xor, Nat.xor_assoc]

theorem feedback_cons (t : Nat × Nat) (terms : List (Nat × Nat)) (top : Nat) :
    feedback (t :: terms) top = (if top.testBit t.2 then t.1 else 0) ^^^ feedback terms top := by
  obtain ⟨term, i⟩ := t
  rw [feedback, List.filter_cons]
  by_cases h : top.testBit i
  · rw [if_pos h, if_pos h, List.foldl_cons, foldl_xor_eq]
    simp only [Nat.zero_xor, feedback]
  · rw [if_neg h, if_neg h, Nat.zero_xor, feedback]

/-- What a sum feeds back is the sum of what its terms feed back. -/
theorem feedback_xor (terms : List (Nat × Nat)) (a b : Nat) :
    feedback terms (a ^^^ b) = feedback terms a ^^^ feedback terms b := by
  induction terms with
  | nil => simp [feedback]
  | cons t terms ih =>
    have hbit : (if (a ^^^ b).testBit t.2 then t.1 else 0) =
        (if a.testBit t.2 then t.1 else 0) ^^^ (if b.testBit t.2 then t.1 else 0) := by
      rw [Nat.testBit_xor]
      cases a.testBit t.2 <;> cases b.testBit t.2 <;> simp
    rw [feedback_cons, feedback_cons, feedback_cons, ih, hbit]
    ac_rfl

theorem feedback_zero (terms : List (Nat × Nat)) : feedback terms 0 = 0 := by
  induction terms with
  | nil => rfl
  | cons t terms ih => simp [feedback_cons, ih]

/-- The terms of the generator, each with the bit that calls for it. -/
def generator : List (Nat × Nat) :=
  [0x3b6a57b2, 0x26508e6d, 0x1ea119fa, 0x3d4233dd, 0x2a1462b3].zipIdx

/-- A step shifts the lower bits, takes the value in, and feeds back the bits pushed out. -/
theorem step_eq (acc value : Nat) :
    polymodStep acc value = ((acc % 2 ^ 25) <<< 5 ^^^ value) ^^^
      feedback generator (acc >>> 25) := by
  rw [Nat.shiftLeft_eq]
  exact foldl_xor_eq _ _

/-- A step of a sum is the sum of the steps. -/
theorem step_xor (a b x y : Nat) :
    polymodStep (a ^^^ b) (x ^^^ y) = polymodStep a x ^^^ polymodStep b y := by
  rw [step_eq, step_eq, step_eq, Nat.xor_mod_two_pow, Nat.shiftLeft_xor_distrib,
    Nat.shiftRight_xor_distrib, feedback_xor]
  ac_rfl

/-- The remainder of a sum of two texts is the sum of their remainders. -/
theorem foldl_step_xor (xs ys : List Nat) (hl : xs.length = ys.length) (a b : Nat) :
    (List.zipWith (· ^^^ ·) xs ys).foldl polymodStep (a ^^^ b) =
      xs.foldl polymodStep a ^^^ ys.foldl polymodStep b := by
  induction xs generalizing ys a b with
  | nil =>
    obtain rfl := List.length_eq_zero_iff.mp hl.symm
    rfl
  | cons x xs ih =>
    obtain ⟨y, ys, rfl⟩ := List.exists_cons_of_length_eq_add_one hl.symm
    rw [List.zipWith_cons_cons, List.foldl_cons, List.foldl_cons, List.foldl_cons, step_xor]
    exact ih ys (Nat.succ.inj hl) _ _

/-- A step that pushes nothing out appends its value. -/
theorem step_of_small {acc value : Nat} (ha : acc < 2 ^ 25) (hv : value < 32) :
    polymodStep acc value = 32 * acc + value := by
  have htop : acc >>> 25 = 0 := by
    rw [Nat.shiftRight_eq_div_pow]
    exact Nat.div_eq_of_lt ha
  rw [step_eq, htop, feedback_zero, Nat.xor_zero, Nat.mod_eq_of_lt ha, Nat.shiftLeft_eq]
  -- the value fills the five low bits that the shift has left empty
  have hdiv : (acc * 2 ^ 5 ^^^ value) / 2 ^ 5 = acc := by
    rw [Nat.xor_div_two_pow, Nat.mul_div_cancel _ (by decide), Nat.div_eq_of_lt hv, Nat.xor_zero]
  have hmod : (acc * 2 ^ 5 ^^^ value) % 2 ^ 5 = value := by
    rw [Nat.xor_mod_two_pow, Nat.mul_mod_left, Nat.zero_xor, Nat.mod_eq_of_lt hv]
  omega

theorem feedback_lt {terms : List (Nat × Nat)} (h : ∀ t ∈ terms, t.1 < 2 ^ 30) (top : Nat) :
    feedback terms top < 2 ^ 30 := by
  induction terms with
  | nil => exact Nat.two_pow_pos 30
  | cons t terms ih =>
    have hterm : (if top.testBit t.2 then t.1 else 0) < 2 ^ 30 := by
      split
      · exact h t List.mem_cons_self
      · exact Nat.two_pow_pos 30
    rw [feedback_cons]
    exact Nat.xor_lt_two_pow hterm (ih fun u hu => h u (List.mem_cons_of_mem t hu))

theorem step_lt (acc : Nat) {value : Nat} (hv : value < 2 ^ 30) :
    polymodStep acc value < 2 ^ 30 := by
  have hshift : (acc % 2 ^ 25) <<< 5 < 2 ^ 30 := by
    have hmod : acc % 2 ^ 25 < 2 ^ 25 := Nat.mod_lt acc (Nat.two_pow_pos 25)
    rw [Nat.shiftLeft_eq]
    omega
  have hfeedback : feedback generator (acc >>> 25) < 2 ^ 30 := feedback_lt (by decide) _
  rw [step_eq]
  exact Nat.xor_lt_two_pow (Nat.xor_lt_two_pow hshift hv) hfeedback

def sixFives (n : Nat) : List Nat := [25, 20, 15, 10, 5, 0].map fun place => (n >>> place) % 32

theorem length_six_fives (n : Nat) : (sixFives n).length = 6 := rfl

theorem six_fives_lt (n : Nat) : ∀ v ∈ sixFives n, v < 32 := by
  intro v h
  obtain ⟨place, -, rfl⟩ := List.mem_map.mp h
  exact Nat.mod_lt _ (by decide)

/-- A step over the next five bits of a number goes on to all its bits down to these. -/
theorem step_next_five {n : Nat} (hn : n < 2 ^ 30) (k : Nat) :
    polymodStep (n / 2 ^ (k + 5)) (n / 2 ^ k % 32) = n / 2 ^ k := by
  have hsmall : n / 2 ^ (k + 5) < 2 ^ 25 := by
    rw [Nat.div_lt_iff_lt_mul (Nat.two_pow_pos _), ← Nat.pow_add]
    exact Nat.lt_of_lt_of_le hn (Nat.pow_le_pow_right (by decide) (by omega))
  have hdiv : n / 2 ^ (k + 5) = n / 2 ^ k / 32 := by
    rw [Nat.pow_add, Nat.div_div_eq_div_mul]
  rw [step_of_small hsmall (Nat.mod_lt _ (by decide)), hdiv]
  exact Nat.div_add_mod (n / 2 ^ k) 32

/-- Six values from zero on push nothing out, so the remainder is the number they make up. -/
theorem foldl_step_six_fives {n : Nat} (hn : n < 2 ^ 30) :
    (sixFives n).foldl polymodStep 0 = n := by
  have hfirst : polymodStep 0 (n / 2 ^ 25 % 32) = n / 2 ^ 25 := by
    have hnext := step_next_five hn 25
    rwa [Nat.div_eq_of_lt hn] at hnext
  simp only [sixFives, List.map_cons, List.map_nil, List.foldl_cons, List.foldl_nil,
    Nat.shiftRight_eq_div_pow]
  -- the remainder is at each point what is left of the number when the later fives are cut off
  rw [hfirst, step_next_five hn 20, step_next_five hn 15, step_next_five hn 10,
    step_next_five hn 5, step_next_five hn 0, Nat.pow_zero, Nat.div_one]

/-- What came before adds to the remainder the same as if zeros had followed it. -/
theorem foldl_step_zeros (values : List Nat) (a : Nat) :
    values.foldl polymodStep a = (List.replicate values.length 0).foldl polymodStep a ^^^
      values.foldl polymodStep 0 := by
  have hzip : List.zipWith (· ^^^ ·) (List.replicate values.length 0) values = values := by
    induction values with
    | nil => rfl
    | cons v values ih =>
      rw [List.length_cons, List.replicate_succ, List.zipWith_cons_cons, ih, Nat.zero_xor]
  have h := foldl_step_xor (List.replicate values.length 0) values List.length_replicate a 0
  rwa [hzip, Nat.xor_zero] at h

theorem polymod_append (front back : List Nat) :
    polymod (front ++ back) = back.foldl polymodStep (polymod front) :=
  List.foldl_append

theorem target_lt (version : Nat) : target version < 2 ^ 30 := by
  unfold target
  split <;> decide

/-- The checksum brings its label and data to the constant of the version. -/
theorem polymod_checksum (label : List Char) (version : Nat) (data : List Nat) :
    polymod (expand label ++ (data ++ checksum label version data)) = target version := by
  have hzeros : polymod (expand label ++ data ++ List.replicate 6 0) < 2 ^ 30 := by
    rw [polymod_append]
    exact step_lt _ (Nat.two_pow_pos 30)
  have hresidue : polymod (expand label ++ data ++ List.replicate 6 0) ^^^
      target version < 2 ^ 30 :=
    Nat.xor_lt_two_pow hzeros (target_lt version)
  have hsum : checksum label version data =
      sixFives (polymod (expand label ++ data ++ List.replicate 6 0) ^^^ target version) := rfl
  -- by linearity the checksum adds its own six values to the remainder that six zeros would leave
  rw [← List.append_assoc, polymod_append, hsum, foldl_step_zeros, length_six_fives,
    foldl_step_six_fives hresidue, ← polymod_append, ← Nat.xor_assoc, Nat.xor_self, Nat.zero_xor]

end ChainLens.Bech32
