import ChainLens.Bytes.LittleEndian
import ChainLens.Text.Ascii

/-!
Byte strings in hexadecimal: two digits a byte, written in lower case and read in either case.
Reading what was written gives the bytes back.
-/

namespace ChainLens.Hex

inductive Fault
  | oddLength
  | badDigit
  deriving DecidableEq, Repr

def Fault.message : Fault → String
  | .oddLength => "odd length, failed to create bytes from hex"
  | .badDigit => "invalid char, failed to create bytes from hex"

def digit (n : Nat) : Char :=
  if n < 10 then Char.ofNat (48 + n) else Char.ofNat (87 + n)

def value? (c : Char) : Option Nat :=
  let n := c.toNat
  if 48 ≤ n ∧ n ≤ 57 then some (n - 48)
  else if 97 ≤ n ∧ n ≤ 102 then some (n - 87)
  else if 65 ≤ n ∧ n ≤ 70 then some (n - 55)
  else none

def encodeChars : Bytes → List Char
  | [] => []
  | b :: rest => digit (b.toNat / 16) :: digit (b.toNat % 16) :: encodeChars rest

def encode (bytes : Bytes) : String := String.ofList (encodeChars bytes)

/-- The bytes of an even number of digits; `none` where a character is no digit or one is left
over. -/
def decodeChars : List Char → Option Bytes
  | [] => some []
  | [_] => none
  | high :: low :: rest => do
    let h ← value? high
    let l ← value? low
    let bytes ← decodeChars rest
    return UInt8.ofNat (16 * h + l) :: bytes

/-- Reads pairs of digits. The length of the UTF-8 form is judged before any digit. -/
def decode (text : String) : Except Fault Bytes :=
  if text.utf8ByteSize % 2 = 1 then .error .oddLength
  else match decodeChars text.toList with
    | some bytes => .ok bytes
    | none => .error .badDigit

theorem value_digit : ∀ n < 16, value? (digit n) = some n := by decide

theorem utf8_size_digit : ∀ n < 16, (digit n).utf8Size = 1 := by decide

theorem length_encode_chars (bytes : Bytes) : (encodeChars bytes).length = 2 * bytes.length := by
  induction bytes with
  | nil => rfl
  | cons b rest ih =>
    simp only [encodeChars, List.length_cons, ih]
    omega

/-- Every character written is a digit of a value below sixteen. -/
theorem mem_encode_chars {bytes : Bytes} {c : Char} (h : c ∈ encodeChars bytes) :
    ∃ n < 16, c = digit n := by
  induction bytes with
  | nil => simp [encodeChars] at h
  | cons b rest ih =>
    have hb := b.toNat_lt
    simp only [encodeChars, List.mem_cons] at h
    rcases h with rfl | rfl | h
    · exact ⟨_, by omega, rfl⟩
    · exact ⟨_, by omega, rfl⟩
    · exact ih h

/-- Bytes are read back from their digits. -/
theorem decode_chars_encode_chars (bytes : Bytes) :
    decodeChars (encodeChars bytes) = some bytes := by
  induction bytes with
  | nil => rfl
  | cons b rest ih =>
    have hb := b.toNat_lt
    have hh := value_digit (b.toNat / 16) (by omega)
    have hl := value_digit (b.toNat % 16) (by omega)
    have hn : UInt8.ofNat (16 * (b.toNat / 16) + b.toNat % 16) = b := by
      rw [Nat.div_add_mod, UInt8.ofNat_toNat]
    simp only [encodeChars, decodeChars, hh, hl, ih, hn, Option.bind_eq_bind, Option.bind_some,
      Option.pure_def]

theorem utf8_byte_size_encode (bytes : Bytes) : (encode bytes).utf8ByteSize = 2 * bytes.length := by
  have h : ∀ c ∈ encodeChars bytes, c.utf8Size = 1 := by
    intro c hc
    obtain ⟨n, hn, rfl⟩ := mem_encode_chars hc
    exact utf8_size_digit n hn
  rw [encode, Text.utf8_byte_size_of_ascii h, length_encode_chars]

theorem decode_encode (bytes : Bytes) : decode (encode bytes) = .ok bytes := by
  have heven : ¬ 2 * bytes.length % 2 = 1 := by omega
  rw [decode, utf8_byte_size_encode, if_neg heven, encode, String.toList_ofList,
    decode_chars_encode_chars]

end ChainLens.Hex
