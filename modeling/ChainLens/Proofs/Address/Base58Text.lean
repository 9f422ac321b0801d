import ChainLens.Address.Base58
import Mathlib.Data.Nat.Digits.Lemmas

/-!
Base58 texts are read back as the bytes they were written for. The digits are those of one number in
two bases; the zeros in front, which the number does not see, are counted on both sides.
-/

namespace ChainLens.Base58

theorem places_eq_digits (base : Nat) (hbase : 1 < base) (n : Nat) :
    places base hbase n = Nat.digits base n := by
  induction n using Nat.strongRecOn with
  | ind n ih =>
    cases n with
    | zero => rw [places, Nat.digits_zero]
    | succ n =>
      have hlt : (n + 1) / base < n + 1 := Nat.div_lt_self (Nat.succ_pos n) hbase
      rw [places, Nat.digits_def' hbase (Nat.succ_pos n), ih _ hlt]

theorem number_eq_of_digits (base : Nat) (digits : List Nat) :
    number base digits = Nat.ofDigits base digits.reverse := by
  rw [Nat.ofDigits_eq_foldr, List.foldr_reverse, number]
  congr
  funext n d
  exact Nat.add_comm _ _

theorem number_replicate_zero (base zeros : Nat) (digits : List Nat) :
    number base (List.replicate zeros 0 ++ digits) = number base digits := by
  induction zeros with
  | zero => rfl
  | succ zeros ih =>
    rw [List.replicate_succ, List.cons_append]
    change number base (List.replicate zeros 0 ++ digits) = _
    exact ih

theorem number_reverse_places (base : Nat) (hbase : 1 < base) (n : Nat) :
    number base (places base hbase n).reverse = n := by
  rw [number_eq_of_digits, List.reverse_reverse, places_eq_digits, Nat.ofDigits_digits]

/-- Digits without zeros in front are the places of their number. -/
theorem reverse_places_number (base : Nat) (hbase : 1 < base) {digits : List Nat}
    (hd : ∀ d ∈ digits, d < base)
    (hz : digits.head? ≠ some 0) : (places base hbase (number base digits)).reverse = digits := by
  rw [places_eq_digits, number_eq_of_digits, Nat.digits_ofDigits base hbase, List.reverse_reverse]
  · intro d h
    exact hd d (List.mem_reverse.mp h)
  · intro hne h
    apply hz
    rw [List.head?_eq_getLast?_reverse, List.getLast?_eq_getLast_of_ne_nil hne, h]

/-- No number is written with a zero in front. -/
theorem head_reverse_places (base : Nat) (hbase : 1 < base) (n : Nat) :
    (places base hbase n).reverse.head? ≠ some 0 := by
  rw [places_eq_digits, List.head?_reverse]
  intro h
  by_cases hn : n = 0
  · rw [hn, Nat.digits_zero] at h
    cases h
  · have hne : Nat.digits base n ≠ [] := Nat.digits_ne_nil_iff_ne_zero.mpr hn
    rw [List.getLast?_eq_getLast_of_ne_nil hne] at h
    exact Nat.getLast_digit_ne_zero base hn (Option.some.inj h)

theorem take_while_replicate_append {α : Type} [BEq α] [LawfulBEq α] (a : α) (n : Nat) {l : List α}
    (h : l.head? ≠ some a) : (List.replicate n a ++ l).takeWhile (· == a) = List.replicate n a := by
  rw [List.takeWhile_append_of_pos (by simp)]
  cases l with
  | nil => simp
  | cons b l =>
    have hb : b ≠ a := fun heq => h (congrArg some heq)
    simp [hb]

theorem map_to_nat_lt (bytes : Bytes) : ∀ d ∈ bytes.map UInt8.toNat, d < 256 := by
  intro d h
  obtain ⟨b, -, rfl⟩ := List.mem_map.mp h
  exact b.toNat_lt

theorem idx_of_digit : ∀ d < 58, alphabet.idxOf? (alphabet.getD d '1') = some d := by decide

theorem map_m_map {α β : Type} {write : α → β} {read : β → Option α} {l : List α}
    (h : ∀ a ∈ l, read (write a) = some a) : (l.map write).mapM read = some l := by
  induction l with
  | nil => rfl
  | cons a l ih =>
    have hrest := ih fun b hb => h b (List.mem_cons_of_mem a hb)
    rw [List.map_cons, List.mapM_cons, h a List.mem_cons_self, hrest]
    rfl

/-- A list falls into the zeros in front and what does not begin with one. -/
theorem exists_zeros {α : Type} [DecidableEq α] (zero : α) (l : List α) :
    ∃ zeros rest, l = List.replicate zeros zero ++ rest ∧ rest.head? ≠ some zero := by
  induction l with
  | nil => exact ⟨0, [], rfl, by simp⟩
  | cons b l ih =>
    by_cases hb : b = zero
    · obtain ⟨zeros, rest, hl, hrest⟩ := ih
      exact ⟨zeros + 1, rest, by rw [hb, hl, List.replicate_succ, List.cons_append], hrest⟩
    · refine ⟨0, b :: l, rfl, ?_⟩
      intro h
      exact hb (Option.some.inj h)

theorem head_map_to_nat {bytes : Bytes} (hz : bytes.head? ≠ some 0) :
    (bytes.map UInt8.toNat).head? ≠ some 0 := by
  cases bytes with
  | nil => simp
  | cons b bytes =>
    intro h
    have hb : b.toNat = 0 := Option.some.inj h
    exact hz (congrArg some (UInt8.toNat_inj.mp hb))

/-- Each zero in front is written as one digit, and what follows as a number. -/
theorem encode_chars_eq (zeros : Nat) {rest : Bytes} (hz : rest.head? ≠ some 0) :
    encodeChars (List.replicate zeros 0 ++ rest) =
      (List.replicate zeros 0 ++
        (places 58 (by decide) (number 256 (rest.map UInt8.toNat))).reverse).map
        fun d => alphabet.getD d '1' := by
  have hzeros : ((List.replicate zeros (0 : UInt8) ++ rest).takeWhile (· == 0)).length = zeros := by
    rw [take_while_replicate_append 0 zeros hz, List.length_replicate]
  have hnumber : number 256 ((List.replicate zeros (0 : UInt8) ++ rest).map UInt8.toNat) =
      number 256 (rest.map UInt8.toNat) := by
    rw [List.map_append, List.map_replicate]
    exact number_replicate_zero 256 zeros _
  have hone : alphabet.getD 0 '1' = '1' := by decide
  simp only [encodeChars, hzeros, hnumber]
  rw [List.map_append, List.map_replicate, hone]

/-- Reading what was written gives the bytes back, the zeros in front included. -/
theorem decode_chars_encode_chars (bytes : Bytes) :
    decodeChars (encodeChars bytes) = some bytes := by
  -- the number sees nothing of the zeros in front, so they are counted apart from the rest
  obtain ⟨zeros, rest, rfl, hz⟩ := exists_zeros 0 bytes
  have h58 := head_reverse_places 58 (by decide) (number 256 (rest.map UInt8.toNat))
  have hd : ∀ d ∈ List.replicate zeros 0 ++
      (places 58 (by decide) (number 256 (rest.map UInt8.toNat))).reverse,
      d < 58 := by
    intro d h
    rcases List.mem_append.mp h with h | h
    · rw [(List.mem_replicate.mp h).2]
      decide
    · rw [places_eq_digits] at h
      exact Nat.digits_lt_base (by decide) (List.mem_reverse.mp h)
  have hback : (rest.map UInt8.toNat).map UInt8.ofNat = rest := by
    rw [List.map_map]
    exact List.map_id'' (fun b => UInt8.ofNat_toNat) rest
  rw [encode_chars_eq zeros hz, decodeChars, map_m_map fun d h => idx_of_digit d (hd d h)]
  simp only [Option.bind_eq_bind, Option.bind_some, take_while_replicate_append 0 zeros h58,
    number_replicate_zero, number_reverse_places,
    reverse_places_number 256 (by decide) (map_to_nat_lt rest) (head_map_to_nat hz), hback,
    List.length_replicate, Option.pure_def]

theorem number_cons (base d : Nat) (digits : List Nat) :
    number base (d :: digits) = d * base ^ digits.length + number base digits := by
  rw [number_eq_of_digits, List.reverse_cons, Nat.ofDigits_append, Nat.ofDigits_singleton,
    List.length_reverse, ← number_eq_of_digits, Nat.mul_comm, Nat.add_comm]

theorem number_bytes_lt (bytes : Bytes) :
    number 256 (bytes.map UInt8.toNat) < 256 ^ bytes.length := by
  have hd : ∀ d ∈ (bytes.map UInt8.toNat).reverse, d < 256 := by
    intro d h
    exact map_to_nat_lt bytes d (List.mem_reverse.mp h)
  have h := Nat.ofDigits_lt_base_pow_length (by decide : 1 < 256) hd
  rwa [List.length_reverse, List.length_map, ← number_eq_of_digits] at h

/-- Two digits are enough for a byte. -/
theorem length_encode_chars_le (bytes : Bytes) : (encodeChars bytes).length ≤ 2 * bytes.length := by
  obtain ⟨zeros, rest, rfl, hz⟩ := exists_zeros 0 bytes
  have hpow : 256 ^ rest.length ≤ 58 ^ (2 * rest.length) := by
    rw [Nat.pow_mul]
    exact Nat.pow_le_pow_left (by decide) _
  have hlen : (places 58 (by decide) (number 256 (rest.map UInt8.toNat))).length ≤
      2 * rest.length := by
    rw [places_eq_digits]
    exact (Nat.digits_length_le_iff (by decide) _).mpr
      (Nat.lt_of_lt_of_le (number_bytes_lt rest) hpow)
  rw [encode_chars_eq zeros hz]
  simp only [List.length_map, List.length_append, List.length_replicate, List.length_reverse]
  omega

theorem length_checksum (payload : Bytes) : (checksum payload).length = 4 := by
  rw [checksum, List.length_take, (Hash256.double payload).length_eq]
  decide

/-- The payload of a checked text is the one it was written for. -/
theorem decode_checked_encode_checked (payload : Bytes) :
    decodeChecked (encodeChecked payload) = some payload := by
  have hc := length_checksum payload
  have hl : (payload ++ checksum payload).length - 4 = payload.length := by
    rw [List.length_append, hc, Nat.add_sub_cancel]
  have htake : (payload ++ checksum payload).take ((payload ++ checksum payload).length - 4) =
      payload := by
    rw [hl, List.take_left]
  have hdrop : (payload ++ checksum payload).drop ((payload ++ checksum payload).length - 4) =
      checksum payload := by
    rw [hl, List.drop_left]
  rw [encodeChecked, decodeChecked, decode_chars_encode_chars]
  simp only [Option.bind_eq_bind, Option.bind_some, htake, hdrop]
  rw [if_pos]
  simp [hc]

/-- Between bounds on a number lie the digit in front and the count of the digits behind it. -/
theorem leading_place {base low high k : Nat} (hbase : 1 < base) (hlow : 0 < low)
    (hhigh : high ≤ base) {n : Nat}
    (hl : low * base ^ k ≤ n) (hh : n < high * base ^ k) :
    ∃ d rest, (places base hbase n).reverse = d :: rest ∧ rest.length = k ∧ low ≤ d ∧ d < high := by
  -- the last place is cut off until a single one is left
  induction k generalizing n with
  | zero =>
    rw [Nat.pow_zero, Nat.mul_one] at hl hh
    refine ⟨n, [], ?_, rfl, hl, hh⟩
    rw [places_eq_digits, Nat.digits_of_lt base n (by omega) (by omega)]
    rfl
  | succ k ih =>
    have hpos : 0 < base := by omega
    have hl' : low * base ^ k ≤ n / base := by
      rw [Nat.le_div_iff_mul_le hpos, Nat.mul_assoc, ← Nat.pow_succ]
      exact hl
    have hh' : n / base < high * base ^ k := by
      rw [Nat.div_lt_iff_lt_mul hpos, Nat.mul_assoc, ← Nat.pow_succ]
      exact hh
    have hn : 0 < n := by
      have hp : 0 < low * base ^ (k + 1) := Nat.mul_pos hlow (Nat.pow_pos hpos)
      omega
    obtain ⟨d, rest, hd, hlength, hbounds⟩ := ih hl' hh'
    refine ⟨d, rest ++ [n % base], ?_, ?_, hbounds⟩
    · rw [places_eq_digits] at hd ⊢
      rw [Nat.digits_def' hbase hn, List.reverse_cons, hd, List.cons_append]
    · rw [List.length_append, hlength]
      rfl

/-- Bounds on the first byte, if that is not zero, are bounds on the character in front of a text,
and tell how many follow. -/
theorem head_encode_chars {bytes : Bytes} {n : Nat} (hn : bytes.length = n) (b : UInt8)
    (low high k : Nat)
    (h : b ≠ 0 ∧ 0 < low ∧ high ≤ 58 ∧ low * 58 ^ k ≤ b.toNat * 256 ^ n ∧
      (b.toNat + 1) * 256 ^ n ≤ high * 58 ^ k) :
    ∃ d text, encodeChars (b :: bytes) = alphabet.getD d '1' :: text ∧ text.length = k ∧ low ≤ d ∧
    d < high := by
  obtain ⟨hb, hlow, hhigh, hl, hh⟩ := h
  have hz : (b :: bytes).head? ≠ some 0 := fun h => hb (Option.some.inj h)
  have hnumber : number 256 ((b :: bytes).map UInt8.toNat) =
      b.toNat * 256 ^ n + number 256 (bytes.map UInt8.toNat) := by
    rw [List.map_cons, number_cons, List.length_map, hn]
  have hlt := number_bytes_lt bytes
  rw [hn] at hlt
  rw [Nat.succ_mul] at hh
  have hl' : low * 58 ^ k ≤ number 256 ((b :: bytes).map UInt8.toNat) := by omega
  have hh' : number 256 ((b :: bytes).map UInt8.toNat) < high * 58 ^ k := by omega
  obtain ⟨d, rest, hd, hlength, hbounds⟩ := leading_place (by decide : 1 < 58) hlow hhigh hl' hh'
  have htext := encode_chars_eq 0 hz
  simp only [List.replicate_zero, List.nil_append] at htext
  rw [hd, List.map_cons] at htext
  refine ⟨d, _, htext, ?_, hbounds⟩
  rw [List.length_map, hlength]

end ChainLens.Base58
