/-!
Byte strings, and fixed-width numbers written with the least byte first. The two laws at the end say
that writing and reading a width are inverse to each other.
-/

namespace ChainLens

abbrev Bytes := List UInt8

namespace LittleEndian

def encode : Nat → Nat → Bytes
  | 0, _ => []
  | width + 1, n => UInt8.ofNat n :: encode width (n / 256)

def decode : Bytes → Nat
  | [] => 0
  | b :: rest => b.toNat + 256 * decode rest

def values : Nat → Nat
  | 0 => 1
  | width + 1 => 256 * values width

@[simp] theorem length_encode (width n : Nat) : (encode width n).length = width := by
  induction width generalizing n with
  | zero => rfl
  | succ width ih => simp [encode, ih]

theorem decode_lt (bytes : Bytes) : decode bytes < values bytes.length := by
  induction bytes with
  | nil => simp [decode, values]
  | cons b rest ih =>
    have hb := b.toNat_lt
    simp only [decode, List.length_cons, values]
    omega

/-- A number is read back up to a multiple of what its width holds. -/
theorem decode_encode (width n : Nat) : decode (encode width n) = n % values width := by
  induction width generalizing n with
  | zero => simp [encode, decode, values, Nat.mod_one]
  | succ width ih =>
    simp only [encode, decode, ih, UInt8.toNat_ofNat', Nat.reducePow, values]
    rw [Nat.mod_mul]

/-- Bytes are the number they stand for, written in as many bytes. -/
theorem encode_decode (bytes : Bytes) : encode bytes.length (decode bytes) = bytes := by
  induction bytes with
  | nil => rfl
  | cons b rest ih =>
    have hb := b.toNat_lt
    have hq : (b.toNat + 256 * decode rest) / 256 = decode rest := by omega
    have hr : UInt8.ofNat (b.toNat + 256 * decode rest) = b := by
      apply UInt8.toNat_inj.mp
      simp only [UInt8.toNat_ofNat']
      omega
    simp [encode, decode, hq, hr, ih]

end LittleEndian
end ChainLens
