import ChainLens.Proofs.Address.Base58Text
import ChainLens.Proofs.Address.Bech32Text

/-!
Texts that are read as addresses have one spelling. What a base58 text is read as is written as that
text again, and what a segwit text is read as is written as that text in lower case: there is
nothing else in a text that reading loses.
-/

namespace ChainLens

/-- Digits are found in the alphabet where they stand. -/
theorem digits_of_map_m {alphabet text : List Char} {digits : List Nat} (other : Char)
    (h : text.mapM alphabet.idxOf? = some digits) :
    digits.map (fun d => alphabet.getD d other) = text ∧ ∀ d ∈ digits, d < alphabet.length := by
  induction text generalizing digits with
  | nil =>
    obtain rfl := Option.some.inj h
    exact ⟨rfl, fun d hd => absurd hd List.not_mem_nil⟩
  | cons c text ih =>
    simp only [List.mapM_cons, Option.bind_eq_bind, Option.bind_eq_some_iff, Option.pure_def,
      Option.some.injEq] at h
    obtain ⟨d, hd, rest, hrest, rfl⟩ := h
    obtain ⟨hlt, hc, -⟩ := List.idxOf?_eq_some_iff.mp hd
    obtain ⟨htext, hall⟩ := ih hrest
    constructor
    · rw [List.map_cons, htext, List.getD_eq_getElem?_getD, List.getElem?_eq_getElem hlt,
        Option.getD_some, hc]
    · intro e he
      rcases List.mem_cons.mp he with rfl | he
      · exact hlt
      · exact hall e he

namespace Base58

theorem map_to_nat_map_of_nat {digits : List Nat} (h : ∀ d ∈ digits, d < 256) :
    (digits.map UInt8.ofNat).map UInt8.toNat = digits := by
  rw [List.map_map]
  have hback : ∀ d ∈ digits, (UInt8.toNat ∘ UInt8.ofNat) d = id d :=
    fun d hd => UInt8.toNat_ofNat_of_lt' (h d hd)
  rw [List.map_congr_left hback, List.map_id]

/-- A base58 text is written again from the bytes that it is read as. -/
theorem encode_chars_decode_chars {text : List Char} {bytes : Bytes}
    (h : decodeChars text = some bytes) :
    encodeChars bytes = text := by
  simp only [decodeChars, Option.bind_eq_bind, Option.bind_eq_some_iff, Option.pure_def,
    Option.some.injEq] at h
  obtain ⟨digits, hdigits, rfl⟩ := h
  obtain ⟨htext, hlt⟩ := digits_of_map_m '1' hdigits
  obtain ⟨zeros, rest, rfl, hz⟩ := exists_zeros 0 digits
  have hrest : ∀ d ∈ rest, d < 58 := fun d hd => hlt d (List.mem_append_right _ hd)
  have hplaces : ∀ d ∈ (places 256 (by decide) (number 58 rest)).reverse, d < 256 := by
    intro d hd
    rw [places_eq_digits] at hd
    exact Nat.digits_lt_base (by decide) (List.mem_reverse.mp hd)
  have hback := map_to_nat_map_of_nat hplaces
  -- the number of the text begins with no zero byte, as it began with no zero digit
  have hhead : ((places 256 (by decide) (number 58 rest)).reverse.map UInt8.ofNat).head? ≠
      some 0 := by
    intro hzero
    apply head_reverse_places 256 (by decide) (number 58 rest)
    rw [← hback, List.head?_map, hzero]
    rfl
  rw [take_while_replicate_append 0 zeros hz, List.length_replicate, number_replicate_zero]
  have h58 : 1 < 58 := by decide
  have h256 : 1 < 256 := by decide
  calc
    _ = (List.replicate zeros 0 ++
        (places 58 h58 (number 256 (places 256 h256 (number 58 rest)).reverse)).reverse).map
          fun d => alphabet.getD d '1' := by rw [encode_chars_eq zeros hhead, hback]
    _ = (List.replicate zeros 0 ++ rest).map fun d => alphabet.getD d '1' := by
      rw [number_reverse_places, reverse_places_number 58 (by decide) hrest hz]
    _ = text := htext

/-- A text in base58 is spelled in the only way there is. -/
theorem encode_checked_decode_checked {text : List Char} {payload : Bytes}
    (h : decodeChecked text = some payload) :
    encodeChecked payload = text := by
  simp only [decodeChecked, Option.bind_eq_bind, Option.bind_eq_some_iff] at h
  obtain ⟨bytes, hbytes, h⟩ := h
  split at h
  · next hsum =>
    obtain rfl := Option.some.inj h
    have hdrop := beq_iff_eq.mp (Bool.and_eq_true_iff.mp hsum).2
    rw [encodeChecked, ← hdrop, List.take_append_drop]
    exact encode_chars_decode_chars hbytes
  · cases h

end Base58

namespace Bech32

theorem of_bits_five_bits {v : Nat} (hv : v < 32) : ofBits (bits 5 v) = v := by
  rw [of_bits_bits]
  exact Nat.mod_eq_of_lt hv

/-- The groups of five of a list whose bits, filled up with fewer than five zeros, are those of some
values. -/
theorem map_five_groups {values : List Nat} (hv : ∀ v ∈ values, v < 32) {l : List Bool}
    {zeros fuel : Nat}
    (hz : zeros < 5) (hf : l.length ≤ fuel)
    (hl : values.flatMap (bits 5) = l ++ List.replicate zeros false) :
    (groups 5 fuel l).map five = values := by
  have hlength : 5 * values.length = l.length + zeros := by
    rw [← length_flat_map_bits, hl, List.length_append, List.length_replicate]
  -- on the values: each takes a group, and the zeros stay behind the last one
  induction values generalizing l fuel with
  | nil =>
    rw [List.length_nil] at hlength
    have hnil : l = [] := List.length_eq_zero_iff.mp (by omega)
    rw [hnil, groups_nil, List.map_nil]
  | cons v values ih =>
    rw [List.length_cons] at hlength
    have hv' : v < 32 := hv v List.mem_cons_self
    have hne : l ≠ [] := by
      intro hnil
      rw [hnil, List.length_nil] at hlength
      omega
    have hpos : 0 < l.length := List.length_pos_iff.mpr hne
    have hfuel : fuel ≠ 0 := by omega
    obtain ⟨fuel, rfl⟩ := Nat.exists_eq_add_one_of_ne_zero hfuel
    rw [List.flatMap_cons] at hl
    rw [groups_of_ne_nil 5 fuel hne, List.map_cons]
    by_cases hlong : 5 ≤ l.length
    · -- a whole group is the bits of the first value, and the zeros stand behind the others
      have hcut : bits 5 v ++ values.flatMap (bits 5) =
          l.take 5 ++ (l.drop 5 ++ List.replicate zeros false) := by
        rw [hl, ← List.append_assoc, List.take_append_drop]
      have hfive : (bits 5 v).length = (l.take 5).length := by
        rw [length_bits, List.length_take, Nat.min_eq_left hlong]
      obtain ⟨htake, hdrop⟩ := List.append_inj hcut hfive
      have hgroup : five (l.take 5) = v := by
        rw [← htake, five, length_bits, Nat.sub_self, List.replicate_zero, List.append_nil,
          of_bits_five_bits hv']
      have hrest : (groups 5 fuel (l.drop 5)).map five = values := by
        apply ih (fun w hw => hv w (List.mem_cons_of_mem v hw)) _ hdrop
        · rw [List.length_drop]
          omega
        · rw [List.length_drop]
          omega
      rw [hgroup, hrest]
    · -- a shorter group is the last one, and the zeros fill it up
      have hnil : values = [] := List.length_eq_zero_iff.mp (by omega)
      have htake : l.take 5 = l := List.take_of_length_le (by omega)
      have hdrop : l.drop 5 = [] := List.drop_of_length_le (by omega)
      have hzeros : zeros = 5 - l.length := by
        rw [hnil, List.length_nil] at hlength
        omega
      have hgroup : five l = v := by
        rw [hnil, List.flatMap_nil, List.append_nil, hzeros] at hl
        rw [five, ← hl, of_bits_five_bits hv']
      rw [htake, hdrop, groups_nil, List.map_nil, hgroup, hnil]

/-- Whole bytes are the bits of the program that they are read as. -/
theorem program_bits_groups {l : List Bool} {fuel : Nat} (hf : l.length ≤ fuel)
    (h8 : 8 ∣ l.length) :
    programBits ((groups 8 fuel l).map fun g => UInt8.ofNat (ofBits g)) = l := by
  induction fuel generalizing l with
  | zero =>
    obtain rfl := List.length_eq_zero_iff.mp (Nat.le_zero.mp hf)
    rfl
  | succ fuel ih =>
    by_cases hl : l = []
    · rw [hl]
      rfl
    -- the first eight bits are those of the first byte, and the others are as many bytes
    have hpos := List.length_pos_iff.mpr hl
    have htake : (l.take 8).length = 8 := by
      rw [List.length_take]
      omega
    have hbyte : bits 8 (UInt8.ofNat (ofBits (l.take 8))).toNat = l.take 8 := by
      have hlt := of_bits_lt (l.take 8)
      have hbits := bits_of_bits (l.take 8)
      rw [htake] at hlt hbits
      rw [UInt8.toNat_ofNat_of_lt' hlt, hbits]
    have hrest :=
      ih (l := l.drop 8) (by rw [List.length_drop]; omega) (by rw [List.length_drop]; omega)
    rw [programBits] at hrest
    rw [groups_of_ne_nil 8 fuel hl, List.map_cons, programBits, List.flatMap_cons, hbyte, hrest,
      List.take_append_drop]

/-- The groups of a program are the values that it was read from. -/
theorem to_fives_of_fives {values : List Nat} (hv : ∀ v ∈ values, v < 32) {program : Bytes}
    (h : ofFives? values = some program) : toFives program = values := by
  rw [ofFives?] at h
  simp only [length_flat_map_bits] at h
  generalize hall : values.flatMap (bits 5) = all at h
  split at h
  · next hrest =>
    obtain ⟨hshort, hzero⟩ := hrest
    have hwhole : (all.take (5 * values.length / 8 * 8)).length = 5 * values.length / 8 * 8 := by
      rw [List.length_take, ← hall, length_flat_map_bits]
      omega
    have hprogram : programBits program = all.take (5 * values.length / 8 * 8) := by
      rw [← Option.some.inj h]
      exact program_bits_groups (Nat.le_of_eq hwhole) (by rw [hwhole]; exact Nat.dvd_mul_left 8 _)
    -- the bits left over are the zeros that filled up the last group
    have hzeros : all.drop (5 * values.length / 8 * 8) =
        List.replicate (all.drop (5 * values.length / 8 * 8)).length false := by
      apply List.eq_replicate_of_mem
      intro b hb
      exact beq_iff_eq.mp (List.all_eq_true.mp hzero b hb)
    rw [to_fives_eq, hprogram]
    apply map_five_groups hv hshort (Nat.le_refl _)
    rw [hall, ← hzeros, List.take_append_drop]
  · cases h

/-- The checksum is determined by what it has to come to. -/
theorem six_fives_foldl {sum : List Nat} (hl : sum.length = 6) (hv : ∀ v ∈ sum, v < 32) :
    sixFives (sum.foldl polymodStep 0) = sum := by
  obtain ⟨a, b, c, d, e, f, rfl⟩ : ∃ a b c d e f, sum = [a, b, c, d, e, f] := by
    match sum, hl with
    | [a, b, c, d, e, f], _ => exact ⟨a, b, c, d, e, f, rfl⟩
  simp only [List.mem_cons, List.not_mem_nil, or_false, forall_eq_or_imp, forall_eq] at hv
  obtain ⟨ha, hb, hc, hd, he, hf⟩ := hv
  -- nothing is pushed out before the sixth value has come in
  simp only [List.foldl_cons, List.foldl_nil]
  rw [step_of_small (by omega) ha, step_of_small (by omega) hb, step_of_small (by omega) hc,
    step_of_small (by omega) hd, step_of_small (by omega) he, step_of_small (by omega) hf]
  simp only [sixFives, List.map_cons, List.map_nil, Nat.shiftRight_eq_div_pow, List.cons.injEq,
    and_true]
  omega

/-- There is one checksum that brings label and data to the constant. -/
theorem eq_checksum {label : List Char} {version : Nat} {data sum : List Nat} (hl : sum.length = 6)
    (hv : ∀ v ∈ sum, v < 32) (h : polymod (expand label ++ (data ++ sum)) = target version) :
    sum = checksum label version data := by
  -- the sum is added to what six zeros in its place would leave
  rw [← List.append_assoc, polymod_append, foldl_step_zeros, hl, ← polymod_append] at h
  have hresidue : polymod (expand label ++ data ++ List.replicate 6 0) ^^^ target version =
      sum.foldl polymodStep 0 := by
    rw [← h, ← Nat.xor_assoc, Nat.xor_self, Nat.zero_xor]
  calc
    sum = sixFives (sum.foldl polymodStep 0) := (six_fives_foldl hl hv).symm
    _ = sixFives (polymod (expand label ++ data ++ List.replicate 6 0) ^^^ target version) := by
      rw [hresidue]
    _ = checksum label version data := rfl

theorem append_of_split_separator {text label tail : List Char}
    (h : splitSeparator? text = some (label, tail)) :
    text = label ++ '1' :: tail := by
  rw [splitSeparator?] at h
  split at h
  · next hlt =>
    obtain ⟨rfl, rfl⟩ := Prod.mk.inj (Option.some.inj h)
    -- what was read from the back up to the separator, the separator, and what stands before it
    have hspan := List.takeWhile_append_dropWhile (p := fun c => c != '1') (l := text.reverse)
    generalize text.reverse.takeWhile (fun c => c != '1') = front at hspan hlt ⊢
    cases hback : text.reverse.dropWhile (fun c => c != '1') with
    | nil =>
      rw [hback, List.append_nil] at hspan
      rw [hspan, List.length_reverse] at hlt
      exact absurd hlt (Nat.lt_irrefl _)
    | cons c back =>
      have hc : c = '1' := by
        have hne : text.reverse.dropWhile (fun c => c != '1') ≠ [] := by
          rw [hback]
          exact List.cons_ne_nil c back
        simpa [hback] using List.head_dropWhile_not (fun c => c != '1') hne
      rw [hback, hc] at hspan
      have htext : text = back.reverse ++ '1' :: front.reverse := by
        rw [← List.reverse_reverse text, ← hspan]
        simp
      have hlength : text.length - front.length - 1 = back.reverse.length := by
        rw [htext]
        simp only [List.length_append, List.length_cons, List.length_reverse]
        omega
      rw [hlength]
      nth_rewrite 2 [htext]
      rw [List.take_left]
      exact htext
  · cases h

/-- A segwit text is written again, in lower case, from the label, version and program that it is
read as. -/
theorem encode_chars_decode_chars {text : List Char} {parts : Parts}
    (h : decodeChars text = some parts) :
    encodeChars parts.label parts.version parts.program = text.map lower := by
  obtain ⟨-, -, tail, values, fives, hsplit, -, hvalues, htake, hsum, hprogram, -⟩ :=
    decode_chars_eq_some.mp h
  obtain ⟨htail, hlt⟩ := digits_of_map_m 'q' hvalues
  simp only [Bool.and_eq_true, decide_eq_true_eq, beq_iff_eq] at hsum
  have hparts : values = (parts.version :: fives) ++ values.drop (values.length - 6) := by
    rw [← htake, List.take_append_drop]
  have hv32 : ∀ v ∈ values, v < 32 := hlt
  have hfives : toFives parts.program = fives := by
    apply to_fives_of_fives _ hprogram
    intro v hv
    apply hv32
    rw [hparts]
    exact List.mem_append_left _ (List.mem_cons_of_mem _ hv)
  -- only one list of six values brings the remainder to the constant
  have hchecksum : values.drop (values.length - 6) =
      checksum parts.label parts.version (parts.version :: fives) := by
    apply eq_checksum
    · rw [List.length_drop]
      omega
    · intro v hv
      exact hv32 v (List.mem_of_mem_drop hv)
    · rw [← hparts]
      exact hsum.2
  have htext : (tailValues parts.label parts.version parts.program).map digit = tail := by
    rw [tailValues, hfives, ← hchecksum, ← hparts]
    exact htail
  rw [encode_chars_eq, htext, ← append_of_split_separator hsplit]

end Bech32
end ChainLens
