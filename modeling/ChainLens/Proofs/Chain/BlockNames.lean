import ChainLens.Chain.BlockRef
import ChainLens.Proofs.Source.Outcome
import ChainLens.Proofs.Text.HashDigits
import ChainLens.Proofs.Text.Numerals
import ChainLens.Proofs.Text.Trimmed
import Mathlib.Algebra.Group.Nat.Defs

/-!
The names of blocks. A name is sixty-four hexadecimal digits, which are those of a hash, or up to
ten decimal ones, which are those of a height; blanks around it do not count. Nothing else is read,
and what is displayed is read back.
-/

namespace ChainLens.BlockRef

structure IsNumeral (name : List Char) : Prop where
  one_le : 1 ≤ name.length
  le_ten : name.length ≤ 10
  digits : ∀ c ∈ name, c.isDigit = true

inductive Named (name : List Char) : BlockRef → Prop
  | hash {h : BlockHash} (hdenoted : h.Denoted name) : Named name (.hash h)
  | height {height : Height} (hnumeral : IsNumeral name)
      (hvalue : Nat.ofDigitChars 10 name 0 = height.toNat) :
    Named name (.height height)

/-- Why a text is not the name of a block: its number is beyond 32 bits, or it is digits of neither
kind. -/
inductive Nameless (name : String) : Refusal → Prop
  | high (hnumeral : IsNumeral name.toList) (hvalue : 2 ^ 32 ≤ Nat.ofDigitChars 10 name.toList 0) :
    Nameless name (.blockHeight name)
  | neither (hhash : ∀ h : BlockHash, ¬ h.Denoted name.toList) (hheight : ¬ IsNumeral name.toList) :
    Nameless name (.blockRef name)

theorem is_digit_iff {c : Char} : Text.isDigit c = true ↔ c.isDigit = true := by
  simp only [Text.isDigit, Char.isDigit, Bool.and_eq_true, decide_eq_true_eq, ge_iff_le,
    UInt32.le_iff_toNat_le]
  exact Iff.rfl

theorem utf8_size_of_digit {c : Char} (h : c.isDigit = true) : c.utf8Size = 1 := by
  simp only [Char.isDigit, Bool.and_eq_true, decide_eq_true_eq, UInt32.le_iff_toNat_le] at h
  apply Char.utf8Size_eq_one_iff.mpr
  apply UInt32.le_iff_toNat_le.mpr
  exact Nat.le_trans h.2 (by decide)

theorem of_digits_eq (digits : List Char) : Text.ofDigits digits = Nat.ofDigitChars 10 digits 0 :=
  Nat.ofDigitChars_eq_foldl.symm

/-- The reader counts bytes, of which digits take one each. -/
theorem reads_hash_iff {name : String} :
    (name.utf8ByteSize = 64 ∧ name.toList.all isHexDigit = true) ↔
    ∃ h : BlockHash, h.Denoted name.toList := by
  have hdigits : name.toList.all isHexDigit = true ↔ ∀ c ∈ name.toList, c ∈ Hex.digits := by
    simp only [List.all_eq_true, isHexDigit, Hex.is_some_value_iff]
  rw [hdigits]
  constructor
  · rintro ⟨hsize, hmem⟩
    rw [Hash256.utf8_byte_size_of_digits hmem] at hsize
    exact Hash256.exists_denoted hsize hmem
  · rintro ⟨h, hdenoted⟩
    exact ⟨by rw [Hash256.utf8_byte_size_of_digits hdenoted.digits, hdenoted.length_eq],
      hdenoted.digits⟩

/-- What is tried as a height is a numeral of up to ten digits. -/
theorem reads_numeral_iff {name : String} :
    (1 ≤ name.utf8ByteSize ∧ name.utf8ByteSize ≤ 10 ∧ name.toList.all Text.isDigit = true) ↔
    IsNumeral name.toList := by
  have hsize (h : ∀ c ∈ name.toList, c.isDigit = true) : name.utf8ByteSize =
      name.toList.length := by
    have hascii := Text.utf8_byte_size_of_ascii fun c hc => utf8_size_of_digit (h c hc)
    rwa [String.ofList_toList] at hascii
  simp only [List.all_eq_true, is_digit_iff]
  constructor
  · rintro ⟨hone, hten, hdigits⟩
    rw [hsize hdigits] at hone hten
    exact ⟨hone, hten, hdigits⟩
  · intro h
    rw [hsize h.digits]
    exact ⟨h.one_le, h.le_ten, h.digits⟩

/-- Sixty-four digits are more than ten. -/
theorem not_numeral_of_denoted {name : List Char} {h : BlockHash} (hdenoted : h.Denoted name) :
    ¬ IsNumeral name := by
  intro hnumeral
  have hlength := hdenoted.length_eq
  have hten := hnumeral.le_ten
  omega

section Parse

variable {text : String}

/-- Sixty-four digits name a hash, whatever else they might be. -/
theorem parse_of_denoted {h : BlockHash} (hdenoted : h.Denoted (Text.trim text).toList) :
    parse text = .ok (.hash h) := by
  have hread : Hash256.parse (Text.trim text) = .ok h := Hash256.parse_eq_ok_iff.mpr hdenoted
  rw [parse]
  dsimp only
  rw [if_pos (reads_hash_iff.mpr ⟨h, hdenoted⟩), hread]

/-- What names no hash is tried as a height. -/
theorem parse_of_not_denoted (hhash : ∀ h : BlockHash, ¬ h.Denoted (Text.trim text).toList) :
    parse text =
      if 1 ≤ (Text.trim text).utf8ByteSize ∧ (Text.trim text).utf8ByteSize ≤ 10 ∧
          (Text.trim text).toList.all Text.isDigit = true then
        if Text.ofDigits (Text.trim text).toList < UInt32.size then
          .ok (.height (UInt32.ofNat (Text.ofDigits (Text.trim text).toList)))
        else .error (.blockHeight (Text.trim text))
      else .error (.blockRef (Text.trim text)) := by
  rw [parse]
  dsimp only
  rw [if_neg]
  intro hreads
  obtain ⟨h, hdenoted⟩ := reads_hash_iff.mp hreads
  exact hhash h hdenoted

/-- A numeral is a height if it has 32 bits. -/
theorem parse_of_numeral (hnumeral : IsNumeral (Text.trim text).toList) :
    parse text =
      if Nat.ofDigitChars 10 (Text.trim text).toList 0 < 2 ^ 32 then
        .ok (.height (UInt32.ofNat (Nat.ofDigitChars 10 (Text.trim text).toList 0)))
      else .error (.blockHeight (Text.trim text)) := by
  have hhash (h : BlockHash) : ¬ h.Denoted (Text.trim text).toList :=
    fun hdenoted => not_numeral_of_denoted hdenoted hnumeral
  have hsize : UInt32.size = 2 ^ 32 := rfl
  rw [parse_of_not_denoted hhash, if_pos (reads_numeral_iff.mpr hnumeral), of_digits_eq, hsize]

theorem parse_of_neither (hhash : ∀ h : BlockHash, ¬ h.Denoted (Text.trim text).toList)
    (hheight : ¬ IsNumeral (Text.trim text).toList) :
    parse text = .error (.blockRef (Text.trim text)) := by
  rw [parse_of_not_denoted hhash, if_neg fun hreads => hheight (reads_numeral_iff.mp hreads)]

/-- A text is the name of a block and read as such, or it is none and refused for that. -/
theorem parse_cases (text : String) :
    (∃ ref, Named (Text.trim text).toList ref ∧ parse text = .ok ref) ∨
      ∃ refusal, Nameless (Text.trim text) refusal ∧ parse text = .error refusal := by
  by_cases hhash : ∃ h : BlockHash, h.Denoted (Text.trim text).toList
  · obtain ⟨h, hdenoted⟩ := hhash
    exact .inl ⟨.hash h, .hash hdenoted, parse_of_denoted hdenoted⟩
  have hnone : ∀ h : BlockHash, ¬ h.Denoted (Text.trim text).toList := not_exists.mp hhash
  by_cases hnumeral : IsNumeral (Text.trim text).toList
  · have hread := parse_of_numeral hnumeral
    by_cases hvalue : Nat.ofDigitChars 10 (Text.trim text).toList 0 < 2 ^ 32
    · rw [if_pos hvalue] at hread
      refine .inl ⟨_, .height hnumeral ?_, hread⟩
      rw [UInt32.toNat_ofNat', Nat.mod_eq_of_lt hvalue]
    · rw [if_neg hvalue] at hread
      exact .inr ⟨_, .high hnumeral (Nat.le_of_not_lt hvalue), hread⟩
  · exact .inr ⟨_, .neither hnone hnumeral, parse_of_neither hnone hnumeral⟩

end Parse

/-- A name stands for one block. -/
theorem Named.unique {name : List Char} {a b : BlockRef} (ha : Named name a) (hb : Named name b) :
    a = b := by
  cases ha with
  | hash hdenoted =>
    cases hb with
    | hash hother => rw [hdenoted.unique hother]
    | height hnumeral _ => exact absurd hnumeral (not_numeral_of_denoted hdenoted)
  | height hnumeral hvalue =>
    cases hb with
    | hash hdenoted => exact absurd hnumeral (not_numeral_of_denoted hdenoted)
    | height _ hother => rw [UInt32.toNat_inj.mp (hvalue.symm.trans hother)]

/-- A text that is refused names nothing. -/
theorem Nameless.not_named {name : String} {refusal : Refusal} (h : Nameless name refusal)
    (ref : BlockRef) :
    ¬ Named name.toList ref := by
  intro hnamed
  cases h with
  | high hnumeral hvalue =>
    cases hnamed with
    | hash hdenoted => exact not_numeral_of_denoted hdenoted hnumeral
    | @height height _ hother =>
      have hbound := height.toNat_lt
      omega
  | neither hhash hheight =>
    cases hnamed with
    | hash hdenoted => exact hhash _ hdenoted
    | height hnumeral _ => exact hheight hnumeral

/-- Blanks aside, a text is read as just what it names. -/
theorem parse_eq_ok_iff {text : String} {ref : BlockRef} :
    parse text = .ok ref ↔ Named (Text.trim text).toList ref := by
  obtain ⟨found, hnamed, hparse⟩ | ⟨refusal, hnameless, hparse⟩ := parse_cases text
  · rw [hparse]
    constructor
    · intro h
      exact Except.ok.inj h ▸ hnamed
    · intro h
      rw [hnamed.unique h]
  · rw [hparse]
    exact iff_of_false (fun h => by cases h) (hnameless.not_named ref)

theorem is_numeral_to_digits (height : Height) : IsNumeral (Nat.toDigits 10 height.toNat) where
  one_le := List.length_pos_iff.mpr Nat.toDigits_ne_nil
  le_ten := by
    have hbound := height.toNat_lt
    apply (Nat.length_toDigits_le_iff (by omega) (by omega)).mpr
    omega
  digits _ hc := Nat.isDigit_of_mem_toDigits (by omega) (by omega) hc

/-- What a block is displayed as is its name. -/
theorem named_display (ref : BlockRef) : Named ref.display.toList ref := by
  cases ref with
  | height height =>
    have hdigits : (display (.height height)).toList = Nat.toDigits 10 height.toNat :=
      Nat.toList_repr
    rw [hdigits]
    exact .height (is_numeral_to_digits height) Nat.ofDigitChars_ten_toDigits
  | hash h => exact .hash (Hash256.denoted_display h)

/-- Sixty-four digits always name a block, and so do up to ten decimal ones if their number has 32
bits. -/
theorem exists_named_iff {name : List Char} : (∃ ref, Named name ref) ↔
    (name.length = 64 ∧ ∀ c ∈ name, c ∈ Hex.digits) ∨
      (IsNumeral name ∧ Nat.ofDigitChars 10 name 0 ≤ 2 ^ 32 - 1) := by
  constructor
  · rintro ⟨ref, hnamed⟩
    cases hnamed with
    | hash hdenoted => exact .inl ⟨hdenoted.length_eq, hdenoted.digits⟩
    | @height height hnumeral hvalue =>
      have hbound := height.toNat_lt
      exact .inr ⟨hnumeral, by omega⟩
  · rintro (⟨hlength, hdigits⟩ | ⟨hnumeral, hvalue⟩)
    · obtain ⟨h, hdenoted⟩ := Hash256.exists_denoted hlength hdigits
      exact ⟨.hash h, .hash hdenoted⟩
    · refine ⟨.height (UInt32.ofNat (Nat.ofDigitChars 10 name 0)), .height hnumeral ?_⟩
      rw [UInt32.toNat_ofNat']
      omega

/-- There are no blanks in names. -/
theorem Named.trimmed {name : List Char} {ref : BlockRef} (h : Named name ref) :
    Text.Trimmed name := by
  have hhex : ∀ c ∈ Hex.digits, Text.isBlank c = false := Hex.forall_digits (by decide)
  apply Text.Trimmed.of_forall
  intro c hc
  cases h with
  | hash hdenoted => exact hhex c (hdenoted.digits c hc)
  | height hnumeral _ =>
    have hdigit := is_digit_iff.mpr (hnumeral.digits c hc)
    simp only [Text.isDigit, Bool.and_eq_true, decide_eq_true_eq] at hdigit
    simp only [Text.isBlank, Bool.or_eq_false_iff, Bool.and_eq_false_iff, decide_eq_false_iff_not,
      beq_eq_false_iff_ne]
    omega

/-- A reference is read back from what it is displayed as. -/
theorem parse_display (ref : BlockRef) : parse ref.display = .ok ref := by
  have hnamed := named_display ref
  rw [parse_eq_ok_iff, Text.trim, String.toList_ofList, hnamed.trimmed.trim_chars]
  exact hnamed

/-- How the names of blocks are read. -/
structure ReadsNames : Prop where
  /-- What is displayed is read back. -/
  displayed : ∀ ref, parse ref.display = .ok ref
  succeeds_iff : ∀ text, (∃ ref, parse text = .ok ref) ↔
    ((Text.trim text).toList.length = 64 ∧ ∀ c ∈ (Text.trim text).toList, c ∈ Hex.digits) ∨
      (IsNumeral (Text.trim text).toList ∧
        Nat.ofDigitChars 10 (Text.trim text).toList 0 ≤ 2 ^ 32 - 1)
  read_iff : ∀ text ref, parse text = .ok ref ↔ Named (Text.trim text).toList ref
  /-- No name is that of a hash and of a height. -/
  apart : ∀ name h height, Named name (.hash h) → ¬ Named name (.height height)
  /-- Every other text is refused as input. -/
  refused : ∀ text, (∀ ref, ¬ Named (Text.trim text).toList ref) ↔
    ∃ refusal, Nameless (Text.trim text) refusal ∧ (parse text).mapError Failure.invalid =
      .error (.invalid refusal)
  /-- Displaying what was read changes no more than how it is written. -/
  stable : ∀ text ref, parse text = .ok ref → parse ref.display = parse text

/-- Blocks are read by the names that their hashes and heights are displayed as, by such hashes in
capitals, by heights with zeros in front as long as there are no more than ten digits, and by
nothing else. -/
theorem block_names_are_read : ReadsNames where
  displayed := parse_display
  succeeds_iff text := by
    rw [← exists_named_iff]
    exact exists_congr fun ref => parse_eq_ok_iff
  read_iff _ _ := parse_eq_ok_iff
  apart _ h height hhash hheight := by
    have hsame := hhash.unique hheight
    cases hsame
  refused text := by
    constructor
    · intro hnone
      obtain ⟨ref, hnamed, -⟩ | ⟨refusal, hnameless, hparse⟩ := parse_cases text
      · exact absurd hnamed (hnone ref)
      · exact ⟨refusal, hnameless, by rw [hparse]; rfl⟩
    · rintro ⟨refusal, hnameless, -⟩
      exact hnameless.not_named
  stable text ref hparse := by rw [parse_display, hparse]

/-- Ten zeros are the first block's height, one more are no name. -/
example : parse " 0000000000\n" = .ok (.height 0) ∧
    parse "00000000000" = .error (.blockRef "00000000000") := by
  decide +kernel

end ChainLens.BlockRef
