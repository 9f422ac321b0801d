import ChainLens.Proofs.Address.Base58Text
import ChainLens.Address.Bech32

/-!
Programs in groups of five bits. The last group is filled up with fewer than five zeros, which is
what a reader of the groups accepts and drops.
-/

namespace ChainLens.Bech32

theorem length_bits (width n : Nat) : (bits width n).length = width := by
  induction width with
  | zero => rfl
  | succ width ih => rw [bits, List.length_cons, ih]

theorem of_bits_eq_number (l : List Bool) : ofBits l = Base58.number 2 (l.map Bool.toNat) :=
  (List.foldl_map).symm

theorem of_bits_cons (b : Bool) (l : List Bool) :
    ofBits (b :: l) = 2 ^ l.length * b.toNat + ofBits l := by
  rw [of_bits_eq_number, of_bits_eq_number, List.map_cons, Base58.number_cons, List.length_map,
    Nat.mul_comm]

theorem of_bits_lt (l : List Bool) : ofBits l < 2 ^ l.length := by
  induction l with
  | nil => decide
  | cons b l ih =>
    have hb : 2 ^ l.length * b.toNat ≤ 2 ^ l.length * 1 := Nat.mul_le_mul_left _ b.toNat_le
    rw [of_bits_cons, List.length_cons, Nat.pow_succ]
    omega

/-- Numbers that agree in their lowest bits have these bits in common. -/
theorem bits_congr {width m n : Nat} (h : ∀ i < width, m.testBit i = n.testBit i) :
    bits width m = bits width n := by
  induction width with
  | zero => rfl
  | succ width ih =>
    have hlow : bits width m = bits width n := ih fun i hi => h i (Nat.lt_succ_of_lt hi)
    rw [bits, bits, h width (Nat.lt_succ_self width), hlow]

theorem bits_of_bits (l : List Bool) : bits l.length (ofBits l) = l := by
  induction l with
  | nil => rfl
  | cons b l ih =>
    -- the first bit stands above all the others
    have hbit : ∀ i, (ofBits (b :: l)).testBit i =
        if i < l.length then (ofBits l).testBit i else b.toNat.testBit (i - l.length) := by
      intro i
      rw [of_bits_cons, Nat.testBit_two_pow_mul_add _ (of_bits_lt l)]
    have hlow : bits l.length (ofBits (b :: l)) = l := by
      rw [bits_congr (n := ofBits l), ih]
      intro i hi
      rw [hbit, if_pos hi]
    rw [List.length_cons, bits, hlow, hbit, if_neg (Nat.lt_irrefl _), Nat.sub_self]
    cases b <;> rfl

/-- The lowest bits of a number make up what is left of it by their count. -/
theorem of_bits_bits (width n : Nat) : ofBits (bits width n) = n % 2 ^ width := by
  induction width with
  | zero => rw [Nat.pow_zero, Nat.mod_one]; rfl
  | succ width ih =>
    rw [bits, of_bits_cons, length_bits, ih, Nat.mod_pow_succ, Nat.toNat_testBit, Nat.add_comm]

def five (group : List Bool) : Nat := ofBits (group ++ List.replicate (5 - group.length) false)

theorem length_filled {group : List Bool} (h : group.length ≤ 5) :
    (group ++ List.replicate (5 - group.length) false).length = 5 := by
  rw [List.length_append, List.length_replicate]
  omega

theorem bits_five {group : List Bool} (h : group.length ≤ 5) :
    bits 5 (five group) = group ++ List.replicate (5 - group.length) false := by
  have hbits := bits_of_bits (group ++ List.replicate (5 - group.length) false)
  rwa [length_filled h] at hbits

theorem five_lt {group : List Bool} (h : group.length ≤ 5) : five group < 32 := by
  have hlt := of_bits_lt (group ++ List.replicate (5 - group.length) false)
  rwa [length_filled h] at hlt

theorem groups_nil {α : Type} (width fuel : Nat) : groups width fuel ([] : List α) = [] := by
  cases fuel <;> rfl

theorem groups_of_ne_nil {α : Type} (width fuel : Nat) {l : List α} (h : l ≠ []) :
    groups width (fuel + 1) l = l.take width :: groups width fuel (l.drop width) := by
  cases l with
  | nil => exact absurd rfl h
  | cons a l => rfl

theorem length_le_of_mem_groups {α : Type} {width fuel : Nat} {l group : List α}
    (h : group ∈ groups width fuel l) :
    group.length ≤ width := by
  induction fuel generalizing l with
  | zero => cases h
  | succ fuel ih =>
    by_cases hl : l = []
    · rw [hl, groups_nil] at h
      cases h
    · rw [groups_of_ne_nil width fuel hl] at h
      rcases List.mem_cons.mp h with h | h
      · rw [h]
        exact List.length_take_le _ _
      · exact ih h

/-- The groups of five spell the bits and fewer than five zeros. -/
theorem flat_map_bits_fives (fuel : Nat) (l : List Bool) (hf : l.length ≤ fuel) :
    ∃ zeros < 5, ((groups 5 fuel l).map five).flatMap (bits 5) =
      l ++ List.replicate zeros false := by
  induction fuel generalizing l with
  | zero =>
    obtain rfl := List.length_eq_zero_iff.mp (Nat.le_zero.mp hf)
    exact ⟨0, by decide, rfl⟩
  | succ fuel ih =>
    by_cases hl : l = []
    · rw [hl]
      exact ⟨0, by decide, rfl⟩
    have hgroup : bits 5 (five (l.take 5)) =
        l.take 5 ++ List.replicate (5 - (l.take 5).length) false :=
      bits_five (List.length_take_le 5 l)
    rw [groups_of_ne_nil 5 fuel hl, List.map_cons, List.flatMap_cons, hgroup]
    by_cases hlong : 5 ≤ l.length
    · have hdrop : (l.drop 5).length ≤ fuel := by
        rw [List.length_drop]
        omega
      obtain ⟨zeros, hzeros, hspell⟩ := ih (l.drop 5) hdrop
      refine ⟨zeros, hzeros, ?_⟩
      rw [hspell, List.length_take_of_le hlong, Nat.sub_self, List.replicate_zero, List.append_nil,
        ← List.append_assoc, List.take_append_drop]
    · -- the last group is the only one that needs zeros
      have hpos : 0 < l.length := List.length_pos_iff.mpr hl
      have htake : l.take 5 = l := List.take_of_length_le (by omega)
      have hdrop : l.drop 5 = [] := List.drop_of_length_le (by omega)
      refine ⟨5 - l.length, by omega, ?_⟩
      rw [htake, hdrop, groups_nil, List.map_nil, List.flatMap_nil, List.append_nil]

theorem length_flat_map_bits (width : Nat) (values : List Nat) :
    (values.flatMap (bits width)).length = width * values.length := by
  induction values with
  | nil => rfl
  | cons v values ih =>
    rw [List.flatMap_cons, List.length_append, length_bits, ih, List.length_cons, Nat.mul_succ,
      Nat.add_comm]

def programBits (program : Bytes) : List Bool := program.flatMap fun b => bits 8 b.toNat

theorem length_program_bits (program : Bytes) :
    (programBits program).length = 8 * program.length := by
  have h := length_flat_map_bits 8 (program.map UInt8.toNat)
  rwa [List.flatMap_map, List.length_map] at h

theorem to_fives_eq (program : Bytes) :
    toFives program = (groups 5 (programBits program).length (programBits program)).map five := rfl

theorem to_fives_lt (program : Bytes) : ∀ v ∈ toFives program, v < 32 := by
  intro v h
  rw [to_fives_eq] at h
  obtain ⟨group, hgroup, rfl⟩ := List.mem_map.mp h
  exact five_lt (length_le_of_mem_groups hgroup)

theorem exists_bits_to_fives (program : Bytes) :
    ∃ zeros < 5, (toFives program).flatMap (bits 5) = programBits program ++
      List.replicate zeros false :=
  flat_map_bits_fives _ _ (Nat.le_refl _)

/-- At most four bits are filled up. -/
theorem length_to_fives_le (program : Bytes) :
    5 * (toFives program).length ≤ 8 * program.length + 4 := by
  obtain ⟨zeros, hzeros, hbits⟩ := exists_bits_to_fives program
  have hlength := congrArg List.length hbits
  rw [length_flat_map_bits, List.length_append, length_program_bits, List.length_replicate]
    at hlength
  omega

/-- Cut into groups of eight, the bits of a program are its bytes again. -/
theorem map_groups_program_bits (fuel : Nat) (program : Bytes) (hf : 8 * program.length ≤ fuel) :
    (groups 8 fuel (programBits program)).map (fun g => UInt8.ofNat (ofBits g)) = program := by
  induction program generalizing fuel with
  | nil => rw [programBits, List.flatMap_nil, groups_nil, List.map_nil]
  | cons b program ih =>
    rw [List.length_cons] at hf
    obtain ⟨fuel, rfl⟩ := Nat.exists_eq_add_one_of_ne_zero (show fuel ≠ 0 by omega)
    have hbyte : UInt8.ofNat (ofBits (bits 8 b.toNat)) = b := by
      rw [of_bits_bits, Nat.mod_eq_of_lt b.toNat_lt, UInt8.ofNat_toNat]
    have hcons : programBits (b :: program) = bits 8 b.toNat ++ programBits program :=
      List.flatMap_cons
    have hlength : (bits 8 b.toNat).length = 8 := length_bits 8 _
    have hne : bits 8 b.toNat ++ programBits program ≠ [] := by
      intro h
      rw [(List.append_eq_nil_iff.mp h).1] at hlength
      cases hlength
    rw [hcons, groups_of_ne_nil 8 fuel hne, List.take_left' hlength, List.drop_left' hlength,
      List.map_cons, hbyte, ih fuel (by omega)]

/-- A program is read back from its groups of five bits. -/
theorem of_fives_to_fives (program : Bytes) : ofFives? (toFives program) = some program := by
  obtain ⟨zeros, hzeros, hbits⟩ := exists_bits_to_fives program
  have hlength := length_program_bits program
  -- fewer than eight bits are left over, so cutting down to whole bytes removes just the zeros
  have hwhole : (programBits program ++ List.replicate zeros false).length / 8 * 8 =
      (programBits program).length := by
    rw [List.length_append, List.length_replicate]
    omega
  rw [ofFives?]
  simp only [hbits, hwhole, List.take_left, List.drop_left]
  rw [if_pos, map_groups_program_bits _ _ (Nat.le_of_eq hlength.symm)]
  simp [hzeros]

end ChainLens.Bech32
