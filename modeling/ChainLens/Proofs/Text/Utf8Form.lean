import ChainLens.Text.Utf8

/-!
Reading UTF-8 that was written. The machine takes the bytes of a character one by one and is between
characters again after the last of them, so the bytes of a text read as that text.
-/

namespace ChainLens.Utf8

theorem to_list_loop (bytes : ByteArray) (i : Nat) (read : List UInt8) :
    ByteArray.toList.loop bytes i read = read.reverse ++ bytes.data.toList.drop i := by
  rw [ByteArray.toList.loop]
  by_cases h : i < bytes.size
  · have hi : i < bytes.data.toList.length := by simpa using h
    have hget : bytes.get! i = bytes.data.toList[i] := by simp [ByteArray.get!, getElem!_pos, h]
    rw [if_pos h, to_list_loop bytes (i + 1), List.drop_eq_getElem_cons hi, hget]
    simp
  · have hi : bytes.data.toList.length ≤ i := by simpa using h
    rw [if_neg h, List.drop_eq_nil_of_le hi, List.append_nil]
termination_by bytes.size - i

theorem encode_eq_flat_map (s : String) : encode s = s.toList.flatMap String.utf8EncodeChar := by
  have hbytes : s.toUTF8 = (s.toList.flatMap String.utf8EncodeChar).toByteArray := by
    rw [String.toUTF8_eq_toByteArray, ← String.utf8Encode_toList]
    rfl
  have hloop := to_list_loop s.toUTF8 0 []
  rw [encode, ByteArray.toList, hloop, hbytes]
  simp

theorem pieces_cons (state : State) (b : UInt8) (rest : Bytes) :
    pieces state (b :: rest) = (step state b.toNat).2 ++ pieces (step state b.toNat).1 rest := by
  cases state with
  | between => rfl
  | owing => rfl

section

variable {low high value b v : Nat}

/-- A byte in range brings six bits more, and one byte less is owed. -/
theorem step_owing (hlow : low ≤ b) (hhigh : b ≤ high) (n : Nat) :
    step (.owing (n + 2) low high value) b =
      (.owing (n + 1) 0x80 0xBF (value * 64 + (b - 0x80)), []) := by
  have hmore : ¬ n + 2 ≤ 1 := by omega
  simp only [step, if_pos (And.intro hlow hhigh), if_neg hmore]
  rfl

theorem step_last (hlow : low ≤ b) (hhigh : b ≤ high) :
    step (.owing 1 low high value) b =
      (.between, [some (Char.ofNat (value * 64 + (b - 0x80)))]) := by
  simp only [step, if_pos (And.intro hlow hhigh), Nat.le_refl, if_true]

theorem start_two (hlow : 0x80 ≤ v) (hhigh : v ≤ 0x7FF) :
    start (v / 64 % 0x20 + 0xC0) = (.owing 1 0x80 0xBF (v / 64), []) := by
  have hfront : v / 64 % 0x20 = v / 64 := by omega
  rw [hfront, start, if_neg (by omega), if_neg (by omega), if_pos (by omega), Nat.add_sub_cancel]

/-- A first byte for two more tells the range of the next one, which leaves out surrogates. -/
theorem start_three (hlow : 0x800 ≤ v) (hhigh : v ≤ 0xFFFF) (hpair : v < 0xD800 ∨ 0xDFFF < v) :
    ∃ low high, start (v / 4096 % 0x10 + 0xE0) = (.owing 2 low high (v / 4096), []) ∧
      low ≤ v / 64 % 0x40 + 0x80 ∧ v / 64 % 0x40 + 0x80 ≤ high := by
  have hfront : v / 4096 % 0x10 = v / 4096 := by omega
  rw [hfront]
  -- after two of the first bytes the second one is bounded more narrowly: texts are written in as
  -- few bytes as there can be, and half a surrogate pair is no character
  by_cases hleast : v / 4096 = 0
  · exact ⟨0xA0, 0xBF, by rw [hleast]; rfl, by omega, by omega⟩
  by_cases hhalves : v / 4096 = 0xD
  · exact ⟨0x80, 0x9F, by rw [hhalves]; rfl, by omega, by omega⟩
  refine ⟨0x80, 0xBF, ?_, by omega, by omega⟩
  rw [start, if_neg (by omega), if_neg (by omega), if_neg (by omega), if_neg (by omega),
    if_neg (by omega), if_pos (by omega), Nat.add_sub_cancel]

theorem start_four (hlow : 0x10000 ≤ v) (hhigh : v < 0x110000) :
    ∃ low high, start (v / 262144 % 0x08 + 0xF0) = (.owing 3 low high (v / 262144), []) ∧
      low ≤ v / 4096 % 0x40 + 0x80 ∧ v / 4096 % 0x40 + 0x80 ≤ high := by
  have hfront : v / 262144 % 0x08 = v / 262144 := by omega
  rw [hfront]
  by_cases hleast : v / 262144 = 0
  · exact ⟨0x90, 0xBF, by rw [hleast]; rfl, by omega, by omega⟩
  -- there are no characters from 0x110000 on
  by_cases hgreatest : v / 262144 = 4
  · exact ⟨0x80, 0x8F, by rw [hgreatest]; rfl, by omega, by omega⟩
  refine ⟨0x80, 0xBF, ?_, by omega, by omega⟩
  rw [start, if_neg (by omega), if_neg (by omega), if_neg (by omega), if_neg (by omega),
    if_neg (by omega), if_neg (by omega), if_neg (by omega), if_pos (by omega), Nat.add_sub_cancel]

end

/-- A byte of a continuation. -/
theorem to_nat_tail (v : Nat) : (UInt8.ofNat (v % 0x40 + 0x80)).toNat = v % 0x40 + 0x80 := by
  rw [UInt8.toNat_ofNat']
  omega

/-- A character is read from the bytes it is written as, and nothing else of them. -/
theorem pieces_char (c : Char) (rest : Bytes) :
    pieces .between (String.utf8EncodeChar c ++ rest) = some c :: pieces .between rest := by
  have hchar : Char.ofNat c.val.toNat = c := Char.ofNat_toNat c
  have hvalid : c.val.toNat < 0xD800 ∨ (0xDFFF < c.val.toNat ∧ c.val.toNat < 0x110000) := c.valid
  rw [String.utf8EncodeChar]
  generalize c.val.toNat = v at hchar hvalid ⊢
  -- the cases are the numbers of bytes, in each of which the machine adds up the value again
  by_cases hone : v ≤ 0x7F
  · have hbyte : (UInt8.ofNat v).toNat = v := by rw [UInt8.toNat_ofNat']; omega
    have hstart : start v = (.between, [some c]) := by rw [start, if_pos (by omega), hchar]
    rw [if_pos hone, List.cons_append, List.nil_append, pieces_cons, hbyte, step, hstart]
    rfl
  rw [if_neg hone]
  by_cases htwo : v ≤ 0x7FF
  · have hfirst : (UInt8.ofNat (v / 64 % 0x20 + 0xC0)).toNat = v / 64 % 0x20 + 0xC0 := by
      rw [UInt8.toNat_ofNat']
      omega
    have hvalue : v / 64 * 64 + (v % 0x40 + 0x80 - 0x80) = v := by omega
    rw [if_pos htwo, List.cons_append, pieces_cons, hfirst, step, start_two (by omega) htwo,
      List.cons_append, pieces_cons, to_nat_tail, step_last (by omega) (by omega), hvalue, hchar]
    rfl
  rw [if_neg htwo]
  by_cases hthree : v ≤ 0xFFFF
  · have hfirst : (UInt8.ofNat (v / 4096 % 0x10 + 0xE0)).toNat = v / 4096 % 0x10 + 0xE0 := by
      rw [UInt8.toNat_ofNat']
      omega
    have hvalue : (v / 4096 * 64 + (v / 64 % 0x40 + 0x80 - 0x80)) * 64 +
        (v % 0x40 + 0x80 - 0x80) = v := by omega
    obtain ⟨low, high, hstart, hlow, hhigh⟩ := start_three (v := v) (by omega) hthree (by omega)
    rw [if_pos hthree, List.cons_append, pieces_cons, hfirst, step, hstart, List.cons_append,
      pieces_cons, to_nat_tail, step_owing hlow hhigh 0, List.cons_append, pieces_cons, to_nat_tail,
      step_last (by omega) (by omega), hvalue, hchar]
    rfl
  · have hfirst : (UInt8.ofNat (v / 262144 % 0x08 + 0xF0)).toNat = v / 262144 % 0x08 + 0xF0 := by
      rw [UInt8.toNat_ofNat']
      omega
    have hvalue : ((v / 262144 * 64 + (v / 4096 % 0x40 + 0x80 - 0x80)) * 64 +
        (v / 64 % 0x40 + 0x80 - 0x80)) * 64 +
        (v % 0x40 + 0x80 - 0x80) = v := by omega
    obtain ⟨low, high, hstart, hlow, hhigh⟩ := start_four (v := v) (by omega) (by omega)
    rw [if_neg hthree, List.cons_append, pieces_cons, hfirst, step, hstart, List.cons_append,
      pieces_cons, to_nat_tail, step_owing hlow hhigh 1, List.cons_append, pieces_cons, to_nat_tail,
      step_owing (by omega) (by omega) 0, List.cons_append, pieces_cons, to_nat_tail,
      step_last (by omega) (by omega), hvalue, hchar]
    rfl

theorem pieces_flat_map (chars : List Char) :
    pieces .between (chars.flatMap String.utf8EncodeChar) = chars.map some := by
  induction chars with
  | nil => rfl
  | cons c chars ih => rw [List.flatMap_cons, pieces_char, ih, List.map_cons]

/-- The bytes of a text read as the text. -/
theorem decode_lossy_encode (s : String) : decodeLossy (encode s) = s := by
  rw [decodeLossy, encode_eq_flat_map, pieces_flat_map, List.map_map]
  simp [Function.comp_def]

/-- A text is read back from its bytes. -/
theorem decode_encode (s : String) : decode? (encode s) = some s := by
  have hall (chars : List Char) : (chars.map some).mapM id = some chars := by
    induction chars with
    | nil => rfl
    | cons c chars ih => simp [ih]
  rw [decode?, encode_eq_flat_map, pieces_flat_map, hall, Option.map_some, String.ofList_toList]

end ChainLens.Utf8
