import ChainLens.Hash.Basic
import Mathlib.Data.List.Basic

/-!
Hashes in hexadecimal digits. Bytes are read from an even number of digits in either case, which are
those they are written in, capitals aside; so a text is read as a hash just when it is sixty-four
digits that the hash is displayed in.
-/

namespace ChainLens

namespace Hex

def digits : List Char :=
  ['0', '1', '2', '3', '4', '5', '6', '7', '8', '9', 'a', 'b', 'c', 'd', 'e', 'f', 'A', 'B', 'C',
    'D', 'E', 'F']

/-- What is so for each digit is found out by going through them, and not through all characters. -/
theorem forall_digits {p : Char → Prop} [DecidablePred p]
    (h : (digits.all fun c => decide (p c)) = true) :
    ∀ c ∈ digits, p c :=
  fun c hc => of_decide_eq_true (List.all_eq_true.mp h c hc)

theorem value_of_mem : ∀ c ∈ digits, ∃ n < 16, value? c = some n ∧ digit n = c.toLower :=
  forall_digits (by decide)

theorem utf8_size_of_mem : ∀ c ∈ digits, c.utf8Size = 1 := forall_digits (by decide)

theorem is_some_value_iff {c : Char} : (value? c).isSome = true ↔ c ∈ digits := by
  constructor
  · intro h
    have hascii : ∀ n < 128, (value? (Char.ofNat n)).isSome = true →
        Char.ofNat n ∈ digits := by decide
    have hsmall : c.toNat < 128 := by
      by_contra hlarge
      have hnone : value? c = none := by
        rw [value?, if_neg (by omega), if_neg (by omega), if_neg (by omega)]
      rw [hnone] at h
      cases h
    have hmem := hascii c.toNat hsmall
    rw [Char.ofNat_toNat] at hmem
    exact hmem h
  · intro h
    obtain ⟨n, -, hvalue, -⟩ := value_of_mem c h
    rw [hvalue]
    rfl

/-- A digit has the value that it stands for in lower case. -/
theorem value_eq_some_iff {c : Char} {n : Nat} :
    value? c = some n ↔ c ∈ digits ∧ n < 16 ∧ digit n = c.toLower := by
  constructor
  · intro h
    have hmem : c ∈ digits := is_some_value_iff.mp (by rw [h]; rfl)
    obtain ⟨m, hm, hvalue, hdigit⟩ := value_of_mem c hmem
    obtain rfl := Option.some.inj (hvalue.symm.trans h)
    exact ⟨hmem, hm, hdigit⟩
  · rintro ⟨hmem, hn, hdigit⟩
    obtain ⟨m, hm, hvalue, hlower⟩ := value_of_mem c hmem
    -- different values are written in different digits
    have hsame := congrArg value? (hlower.trans hdigit.symm)
    rw [value_digit m hm, value_digit n hn] at hsame
    rw [hvalue, hsame]

/-- Bytes are read from the digits that they are written in, in either case. -/
theorem decode_chars_eq_some_iff {text : List Char} {bytes : Bytes} :
    decodeChars text = some bytes ↔ (∀ c ∈ text, c ∈ digits) ∧
    encodeChars bytes = text.map Char.toLower := by
  fun_induction decodeChars text generalizing bytes with
  | case1 =>
    constructor
    · intro h
      obtain rfl := Option.some.inj h
      exact ⟨fun c hc => absurd hc List.not_mem_nil, rfl⟩
    · rintro ⟨-, h⟩
      cases bytes with
      | nil => rfl
      | cons b rest => cases h
  -- a single digit is left over, and written digits come in pairs
  | case2 c =>
    constructor
    · intro h
      cases h
    · rintro ⟨-, h⟩
      have hlength := congrArg List.length h
      rw [length_encode_chars, List.length_map, List.length_singleton] at hlength
      omega
  | case3 high low rest ih =>
    simp only [Option.bind_eq_bind, Option.bind_eq_some_iff, value_eq_some_iff, ih, Option.pure_def]
    constructor
    · rintro ⟨h, ⟨hhigh, hh, hdigith⟩, l, ⟨hlow, hl, hdigitl⟩, others, ⟨hmem, hothers⟩, hbytes⟩
      obtain rfl := Option.some.inj hbytes
      have hbyte : (UInt8.ofNat (16 * h + l)).toNat = 16 * h + l := by
        rw [UInt8.toNat_ofNat']
        omega
      have hplaces : (16 * h + l) / 16 = h ∧ (16 * h + l) % 16 = l := by omega
      constructor
      · simp only [List.forall_mem_cons]
        exact ⟨hhigh, hlow, hmem⟩
      · rw [encodeChars, hbyte, hplaces.1, hplaces.2, hdigith, hdigitl, hothers]
        rfl
    · rintro ⟨hmem, h⟩
      simp only [List.forall_mem_cons] at hmem
      obtain ⟨hhigh, hlow, hrest⟩ := hmem
      cases bytes with
      | nil => cases h
      | cons b others =>
        simp only [encodeChars, List.map_cons, List.cons.injEq] at h
        obtain ⟨hdigith, hdigitl, hothers⟩ := h
        have hb := b.toNat_lt
        refine ⟨b.toNat / 16, ⟨hhigh, by omega, hdigith⟩, b.toNat % 16,
          ⟨hlow, by omega, hdigitl⟩, others,
          ⟨hrest, hothers⟩, ?_⟩
        rw [Nat.div_add_mod, UInt8.ofNat_toNat]

/-- An even number of digits is that of some bytes. -/
theorem exists_decode_chars {text : List Char} (hlength : text.length % 2 = 0)
    (hdigits : ∀ c ∈ text, c ∈ digits) :
    ∃ bytes, decodeChars text = some bytes := by
  fun_induction decodeChars text with
  | case1 => exact ⟨[], rfl⟩
  | case2 c => simp at hlength
  | case3 high low rest ih =>
    simp only [List.forall_mem_cons] at hdigits
    obtain ⟨hhigh, hlow, hrest⟩ := hdigits
    obtain ⟨h, -, hh, -⟩ := value_of_mem high hhigh
    obtain ⟨l, -, hl, -⟩ := value_of_mem low hlow
    have heven : rest.length % 2 = 0 := by
      rw [List.length_cons, List.length_cons] at hlength
      omega
    obtain ⟨bytes, hbytes⟩ := ih heven hrest
    exact ⟨UInt8.ofNat (16 * h + l) :: bytes, by simp [hh, hl, hbytes]⟩

end Hex

namespace Hash256

/-- Sixty-four digits that are those the hash is displayed in, or capitals in their place. -/
structure Denoted (h : Hash256) (text : List Char) : Prop where
  length_eq : text.length = 64
  digits : ∀ c ∈ text, c ∈ Hex.digits
  display_eq : h.display.toList = text.map Char.toLower

theorem to_list_display (h : Hash256) : h.display.toList = Hex.encodeChars h.bytes.reverse := by
  rw [display, Hex.encode, String.toList_ofList]

theorem utf8_byte_size_of_digits {text : String} (h : ∀ c ∈ text.toList, c ∈ Hex.digits) :
    text.utf8ByteSize = text.toList.length := by
  have hsize := Text.utf8_byte_size_of_ascii fun c hc => Hex.utf8_size_of_mem c (h c hc)
  rwa [String.ofList_toList] at hsize

/-- A text is read as the hash that its digits denote, in either case. -/
theorem parse_eq_ok_iff {text : String} {h : Hash256} :
    parse text = .ok h ↔ h.Denoted text.toList := by
  constructor
  · intro hparse
    rw [parse] at hparse
    split_ifs at hparse with hsize
    split at hparse
    · next bytes hbytes =>
      split_ifs at hparse with hlength
      obtain rfl := Except.ok.inj hparse
      obtain ⟨hdigits, hwritten⟩ := Hex.decode_chars_eq_some_iff.mp hbytes
      refine ⟨?_, hdigits, ?_⟩
      · rw [← utf8_byte_size_of_digits hdigits]
        exact Classical.not_not.mp hsize
      · rw [to_list_display, List.reverse_reverse, hwritten]
    · cases hparse
  · intro hdenoted
    have hsize : text.utf8ByteSize = 64 := by
      rw [utf8_byte_size_of_digits hdenoted.digits, hdenoted.length_eq]
    have hbytes : Hex.decodeChars text.toList = some h.bytes.reverse := by
      apply Hex.decode_chars_eq_some_iff.mpr
      exact ⟨hdenoted.digits, by rw [← to_list_display, hdenoted.display_eq]⟩
    simp only [parse, hsize, hbytes, List.reverse_reverse, h.length_eq]
    rfl

/-- Digits denote one hash. -/
theorem Denoted.unique {text : List Char} {a b : Hash256} (ha : a.Denoted text)
    (hb : b.Denoted text) : a = b := by
  have hdisplay : a.display = b.display :=
    String.toList_injective (ha.display_eq.trans hb.display_eq.symm)
  have hparse := congrArg parse hdisplay
  rw [parse_display, parse_display] at hparse
  exact Except.ok.inj hparse

/-- Sixty-four digits in either case denote a hash. -/
theorem exists_denoted {text : List Char} (hlength : text.length = 64)
    (hdigits : ∀ c ∈ text, c ∈ Hex.digits) :
    ∃ h : Hash256, h.Denoted text := by
  obtain ⟨bytes, hbytes⟩ := Hex.exists_decode_chars (by omega) hdigits
  obtain ⟨-, hwritten⟩ := Hex.decode_chars_eq_some_iff.mp hbytes
  have hbound : bytes.reverse.length = 32 := by
    have hdouble := congrArg List.length hwritten
    rw [Hex.length_encode_chars, List.length_map, hlength] at hdouble
    rw [List.length_reverse]
    omega
  refine ⟨⟨bytes.reverse, hbound⟩, hlength, hdigits, ?_⟩
  rw [to_list_display, List.reverse_reverse, hwritten]

/-- The digits in which a hash is displayed denote it. -/
theorem denoted_display (h : Hash256) : h.Denoted h.display.toList :=
  parse_eq_ok_iff.mp (parse_display h)

end Hash256

end ChainLens
