import ChainLens.Encoding.Decoder

/-!
Compact sizes: a count takes one byte below 0xfd, and else a marker byte with the count in two, four
or eight bytes. The narrowest form is the only one accepted.
-/

namespace ChainLens.CompactSize

def encode (n : Nat) : Bytes :=
  if n < 0xfd then [UInt8.ofNat n]
  else if n < 0x10000 then 0xfd :: LittleEndian.encode 2 n
  else if n < 0x100000000 then 0xfe :: LittleEndian.encode 4 n
  else 0xff :: LittleEndian.encode 8 n

def width (n : Nat) : Nat :=
  if n < 0xfd then 1 else if n < 0x10000 then 3 else if n < 0x100000000 then 5 else 9

@[simp] theorem length_encode (n : Nat) : (encode n).length = width n := by
  simp only [encode, width]
  split
  · rfl
  · split
    · simp
    · split <;> simp

def wide (bytes least : Nat) : Decoder Nat := do
  let n ← Decoder.number bytes
  if n < least then throw .wideCount
  return n

def decode : Decoder Nat := do
  let first ← Decoder.byte
  if first = 0xfd then wide 2 0xfd
  else if first = 0xfe then wide 4 0x10000
  else if first = 0xff then wide 8 0x100000000
  else return first.toNat

/-- A count in a wide form is read, unless a narrower form would have held it. -/
theorem run_wide_append (bytes least : Nat) {n : Nat} (rest : Bytes) (hl : least ≤ n)
    (hn : n < LittleEndian.values bytes) :
    (wide bytes least).run (LittleEndian.encode bytes n ++ rest) = .ok (n, rest) := by
  have hd : LittleEndian.decode (LittleEndian.encode bytes n) = n := by
    rw [LittleEndian.decode_encode, Nat.mod_eq_of_lt hn]
  have hnot : ¬ n < least := by omega
  rw [wide, StateT.run_bind, Decoder.run_number_append _ rest (LittleEndian.length_encode bytes n),
    hd]
  simp only [bind, Except.bind, hnot, if_false]
  rfl

/-- Reading takes exactly what writing a count produces, and leaves what follows. -/
theorem run_decode_append {n : Nat} (rest : Bytes) (h : n < UInt64.size) :
    decode.run (encode n ++ rest) = .ok (n, rest) := by
  have h8 : UInt64.size = LittleEndian.values 8 := rfl
  have hmarked (b : UInt8) (tail : Bytes) : decode.run (b :: tail) =
      (if b = 0xfd then wide 2 0xfd
       else if b = 0xfe then wide 4 0x10000
       else if b = 0xff then wide 8 0x100000000
       else return b.toNat : Decoder Nat).run tail := by
    rw [decode, StateT.run_bind, Decoder.run_byte_cons]
    rfl
  unfold encode
  split
  · -- A count of one byte is no marker.
    next hn =>
    have hb : (UInt8.ofNat n).toNat = n := by
      rw [UInt8.toNat_ofNat', Nat.mod_eq_of_lt (by omega)]
    have hne (k : UInt8) (hk : 0xfd ≤ k.toNat) : UInt8.ofNat n ≠ k := by
      intro he
      rw [← he, hb] at hk
      omega
    rw [List.singleton_append, hmarked, if_neg (hne 0xfd (by decide)),
      if_neg (hne 0xfe (by decide)), if_neg (hne 0xff (by decide)), hb]
    rfl
  · -- In a wider form the marker decides the width, and the bound before it makes the form the
    -- narrowest.
    split
    · next hn =>
      rw [List.cons_append, hmarked, if_pos rfl]
      exact run_wide_append 2 0xfd rest (by omega) hn
    · split
      · next hn =>
        rw [List.cons_append, hmarked, if_neg (by decide), if_pos rfl]
        exact run_wide_append 4 0x10000 rest (by omega) hn
      · rw [List.cons_append, hmarked, if_neg (by decide), if_neg (by decide), if_pos rfl]
        exact run_wide_append 8 0x100000000 rest (by omega) (h8 ▸ h)

end ChainLens.CompactSize

namespace ChainLens

def Decoder.counted {α : Type} (item : Decoder α) : Decoder (List α) := do
  Decoder.replicate item (← CompactSize.decode)

def Decoder.countedBytes : Decoder Bytes := do
  Decoder.exactly (← CompactSize.decode)

def Encode.counted {α : Type} (item : α → Bytes) (items : List α) : Bytes :=
  CompactSize.encode items.length ++ items.flatMap item

def Encode.countedBytes (bytes : Bytes) : Bytes := CompactSize.encode bytes.length ++ bytes

def sumOver {α : Type} (size : α → Nat) : List α → Nat
  | [] => 0
  | a :: rest => size a + sumOver size rest

/-- A size that is the length of the bytes written adds up to the length of all of them. -/
theorem length_flatMap_eq_sumOver {α : Type} (item : α → Bytes) (items : List α) :
    (items.flatMap item).length = sumOver (fun a => (item a).length) items := by
  induction items with
  | nil => rfl
  | cons a rest ih => simp [sumOver, ih]

def countedSize (bytes : Bytes) : Nat := CompactSize.width bytes.length + bytes.length

end ChainLens
