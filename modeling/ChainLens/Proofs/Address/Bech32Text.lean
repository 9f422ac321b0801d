import ChainLens.Proofs.Address.Bech32Checksum
import ChainLens.Proofs.Address.FiveBits
import ChainLens.Text.Blank
import Mathlib.Data.Option.Basic

/-!
Segwit addresses are read back as the label, version and program they were written for.
-/

namespace ChainLens.Bech32

/-- A label that a reader gives back as it was written. -/
structure LabelFits (label : List Char) : Prop where
  ne_nil : label ≠ []
  length_le : label.length ≤ 18
  visible : ∀ c ∈ label, isLabelChar c = true
  not_upper : ∀ c ∈ label, isUpper c = false

/-- The labels of all zones are given back as they were written. -/
theorem zone_label_fits (zone : SegwitZone) : LabelFits zone.label where
  ne_nil := by cases zone <;> decide
  length_le := by cases zone <;> decide
  visible := by
    apply List.all_eq_true.mp
    cases zone <;> decide
  not_upper := by
    have hall : zone.label.all (fun c => isUpper c == false) = true := by cases zone <;> decide
    intro c h
    exact beq_iff_eq.mp (List.all_eq_true.mp hall c h)

theorem idx_of_digit : ∀ d < 32, alphabet.idxOf? (digit d) = some d := by decide

theorem digit_ne_separator : ∀ d < 32, digit d ≠ '1' := by decide

theorem digit_not_upper : ∀ d < 32, isUpper (digit d) = false := by decide

theorem digit_visible : ∀ d < 32, isLabelChar (digit d) = true := by decide

theorem lower_of_not_upper {c : Char} (h : isUpper c = false) : lower c = c := by
  rw [lower, h]
  rfl

/-- The values behind the separator of an address: version, program and checksum. -/
def tailValues (label : List Char) (version : Nat) (program : Bytes) : List Nat :=
  version :: toFives program ++ checksum label version (version :: toFives program)

theorem encode_chars_eq (label : List Char) (version : Nat) (program : Bytes) :
    encodeChars label version program =
      label ++ '1' :: (tailValues label version program).map digit := rfl

theorem length_checksum (label : List Char) (version : Nat) (data : List Nat) :
    (checksum label version data).length = 6 := rfl

theorem length_tail_values (label : List Char) (version : Nat) (program : Bytes) :
    (tailValues label version program).length = (toFives program).length + 7 := by
  rw [tailValues, List.length_append, List.length_cons, length_checksum]

theorem tail_values_lt (label : List Char) {version : Nat} (hv : version ≤ 16) (program : Bytes) :
    ∀ v ∈ tailValues label version program, v < 32 := by
  intro v h
  rcases List.mem_append.mp h with h | h
  · rcases List.mem_cons.mp h with h | h
    · omega
    · exact to_fives_lt program v h
  · exact six_fives_lt _ v h

/-- What holds of the label, of the separator and of all digits holds of all characters of an
address. -/
theorem forall_mem_encode_chars {p : Char → Prop} {label : List Char} {version : Nat}
    (hv : version ≤ 16)
    (program : Bytes) (hl : ∀ c ∈ label, p c) (hs : p '1') (hd : ∀ d < 32, p (digit d)) :
    ∀ c ∈ encodeChars label version program, p c := by
  intro c h
  rw [encode_chars_eq] at h
  rcases List.mem_append.mp h with h | h
  · exact hl c h
  · rcases List.mem_cons.mp h with h | h
    · rw [h]
      exact hs
    · obtain ⟨d, hmem, rfl⟩ := List.mem_map.mp h
      exact hd d (tail_values_lt label hv program d hmem)

/-- No digit is a separator, so the last one stands behind the label. -/
theorem split_separator_append (label : List Char) {tail : List Char} (h : ∀ c ∈ tail, c ≠ '1') :
    splitSeparator? (label ++ '1' :: tail) = some (label, tail) := by
  have htail : (label ++ '1' :: tail).reverse.takeWhile (· != '1') = tail.reverse := by
    rw [List.reverse_append, List.reverse_cons, List.append_assoc, List.takeWhile_append_of_pos]
    · simp
    · intro c hc
      simpa using h c (List.mem_reverse.mp hc)
  have hlength : (label ++ '1' :: tail).length = label.length + tail.length + 1 := by
    rw [List.length_append, List.length_cons, Nat.add_assoc]
  have hlabel : label.length + tail.length + 1 - tail.length - 1 = label.length := by omega
  rw [splitSeparator?]
  simp only [htail, List.length_reverse, List.reverse_reverse, hlength, hlabel, List.take_left]
  rw [if_pos]
  omega

theorem take_of_split_separator {text label tail : List Char}
    (h : splitSeparator? text = some (label, tail)) :
    ∃ k, label = text.take k := by
  rw [splitSeparator?] at h
  split at h
  · exact ⟨_, (congrArg Prod.fst (Option.some.inj h)).symm⟩
  · cases h

/-- Everything that a reader asks of a text. -/
theorem decode_chars_eq_some {text : List Char} {parts : Parts} :
    decodeChars text = some parts ↔
      text.length ≤ 90 ∧ (!(text.any isUpper && text.any isLower)) = true ∧
      ∃ tail values fives,
        splitSeparator? (text.map lower) = some (parts.label, tail) ∧
        (!parts.label.isEmpty && parts.label.all isLabelChar) = true ∧
        tail.mapM alphabet.idxOf? = some values ∧
        values.take (values.length - 6) = parts.version :: fives ∧
        (6 < values.length && polymod (expand parts.label ++ values) == target parts.version) =
          true ∧
        ofFives? fives = some parts.program ∧ programFits parts.version parts.program = true := by
  rw [decodeChars]
  simp only [Option.bind_eq_bind, Option.bind_eq_some_iff, Option.guard_eq_some']
  constructor
  · intro h
    obtain ⟨-, hlength, -, hcase, ⟨label, tail⟩, hsplit, -, hlabel, values, hvalues, h⟩ := h
    split at h
    · rename_i version fives htake
      simp only [Option.bind_eq_some_iff, Option.guard_eq_some'] at h
      obtain ⟨-, hsum, program, hprogram, -, hfit, hparts⟩ := h
      cases hparts
      exact ⟨hlength, hcase, tail, values, fives, hsplit, hlabel, hvalues, htake, hsum,
        hprogram, hfit⟩
    · cases h
  · intro h
    obtain ⟨hlength, hcase, tail, values, fives, hsplit, hlabel, hvalues, htake, hsum,
        hprogram, hfit⟩ := h
    refine ⟨(), hlength, (), hcase, (parts.label, tail), hsplit, (), hlabel, values, hvalues, ?_⟩
    simp only [htake, Option.bind_eq_some_iff, Option.guard_eq_some']
    exact ⟨(), hsum, parts.program, hprogram, (), hfit, rfl⟩

/-- No address is too long to be read. -/
theorem length_encode_chars_le {label : List Char} (hl : LabelFits label) {version : Nat}
    {program : Bytes}
    (hp : program.length ≤ 40) : (encodeChars label version program).length ≤ 90 := by
  have hlabel := hl.length_le
  have hfives := length_to_fives_le program
  rw [encode_chars_eq, List.length_append, List.length_cons, List.length_map, length_tail_values]
  omega

/-- Every version and program that may stand in an address is read back from it. -/
theorem decode_chars_encode_chars {label : List Char} (hl : LabelFits label) {version : Nat}
    {program : Bytes}
    (hfit : programFits version program = true) :
    decodeChars (encodeChars label version program) = some ⟨label, version, program⟩ := by
  obtain ⟨hversion, -, hprogram⟩ := program_fits_bounds hfit
  have hdigits := tail_values_lt label hversion program
  have hupper : ∀ c ∈ encodeChars label version program, isUpper c = false :=
    forall_mem_encode_chars hversion program hl.not_upper rfl digit_not_upper
  -- nothing written is in upper case, so no case is mixed and none is lowered
  have hany : (encodeChars label version program).any isUpper = false := by
    rw [List.any_eq_false]
    intro c h
    rw [hupper c h]
    exact Bool.false_ne_true
  have hlower : (encodeChars label version program).map lower =
      encodeChars label version program := by
    rw [List.map_congr_left fun c h => lower_of_not_upper (hupper c h), List.map_id']
  rw [decode_chars_eq_some]
  refine ⟨length_encode_chars_le hl hprogram, ?_, (tailValues label version program).map digit,
    tailValues label version program, toFives program, ?_, ?_, ?_, ?_, ?_,
    of_fives_to_fives program, hfit⟩
  · rw [hany]
    rfl
  · rw [hlower]
    apply split_separator_append
    intro c h
    obtain ⟨d, hd, rfl⟩ := List.mem_map.mp h
    exact digit_ne_separator d (hdigits d hd)
  · rw [List.isEmpty_eq_false_iff.mpr hl.ne_nil, List.all_eq_true.mpr hl.visible]
    rfl
  · exact Base58.map_m_map fun d h => idx_of_digit d (hdigits d h)
  · rw [length_tail_values]
    change List.take (version :: toFives program).length (tailValues label version program) = _
    rw [tailValues, List.take_left]
  · have hsum : polymod (expand label ++ tailValues label version program) = target version :=
      polymod_checksum label version (version :: toFives program)
    rw [hsum, length_tail_values]
    simp

/-- The label that is read from a text begins as the text does. -/
theorem head_label {text : List Char} {parts : Parts} (h : decodeChars text = some parts) :
    parts.label.head? = (text.map lower).head? := by
  obtain ⟨-, -, tail, values, fives, hsplit, hlabel, -⟩ := decode_chars_eq_some.mp h
  obtain ⟨k, hk⟩ := take_of_split_separator hsplit
  -- an empty label is refused, so the first character of the text belongs to it
  have hpos : k ≠ 0 := by
    intro hzero
    rw [hk, hzero] at hlabel
    cases hlabel
  rw [hk, List.head?_take, if_neg hpos]

end ChainLens.Bech32
