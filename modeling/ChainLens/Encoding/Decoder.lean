import ChainLens.Hash.Basic

/-!
Readers of serialized values. A decoder takes a value from the front of its input and leaves the
rest; `decodeAll` asks that nothing is left.
-/

namespace ChainLens

inductive DecodeError
  /-- The input ended before the value did. -/
  | ended
  /-- Bytes remain after the value. -/
  | trailing
  /-- A count is written in a wider form than it needs. -/
  | wideCount
  /-- The byte after the marker is not the witness flag. -/
  | badFlag (flag : UInt8)
  /-- The witness form was used although every witness is empty. -/
  | noWitness
  /-- A witness asks for more room than is allowed. -/
  | oversized (requested : Nat)
  deriving DecidableEq, Repr

/-- The room that one witness may take, also the greatest number of its elements. -/
def witnessLimit : Nat := 4000000

def DecodeError.message : DecodeError → String
  | .ended => "IO error"
  | .trailing => "parse failed: data not consumed entirely when explicitly deserializing"
  | .wideCount => "non-minimal varint"
  | .badFlag flag => s!"unsupported segwit version: {flag.toNat}"
  | .noWitness => "parse failed: witness flag set but no witnesses present"
  | .oversized requested =>
    s!"allocation of oversized vector: requested {requested}, maximum {witnessLimit}"

/-- Takes a value from the front of the input and returns it with the rest. -/
abbrev Decoder (α : Type) := StateT Bytes (Except DecodeError) α

namespace Decoder

def split? : Nat → Bytes → Option (Bytes × Bytes)
  | 0, rest => some ([], rest)
  | _ + 1, [] => none
  | n + 1, b :: rest => (split? n rest).map fun (taken, left) => (b :: taken, left)

/-- What is split off and the rest make up the input. -/
theorem split_eq_some {n : Nat} {input taken rest : Bytes}
    (h : split? n input = some (taken, rest)) :
    input = taken ++ rest ∧ taken.length = n := by
  induction n generalizing input taken rest with
  | zero =>
    simp only [split?, Option.some.injEq, Prod.mk.injEq] at h
    obtain ⟨rfl, rfl⟩ := h
    simp
  | succ n ih =>
    cases input with
    | nil => simp [split?] at h
    | cons b tail =>
      simp only [split?, Option.map_eq_some_iff, Prod.mk.injEq, Prod.exists] at h
      obtain ⟨u, v, huv, rfl, rfl⟩ := h
      obtain ⟨rfl, rfl⟩ := ih huv
      simp

theorem split_append (taken rest : Bytes) :
    split? taken.length (taken ++ rest) = some (taken, rest) := by
  induction taken with
  | nil => rfl
  | cons b taken ih => simp [split?, ih]

def exactly (n : Nat) : Decoder Bytes := fun input =>
  match split? n input with
  | some (taken, rest) => .ok (taken, rest)
  | none => .error .ended

theorem run_exactly_append (taken rest : Bytes) :
    (exactly taken.length).run (taken ++ rest) = .ok (taken, rest) := by
  simp only [StateT.run, exactly, split_append]

def number (width : Nat) : Decoder Nat := do
  return LittleEndian.decode (← exactly width)

theorem run_number_append {width : Nat} (bytes rest : Bytes) (h : bytes.length = width) :
    (number width).run (bytes ++ rest) = .ok (LittleEndian.decode bytes, rest) := by
  subst h
  rw [number, StateT.run_bind, run_exactly_append]
  rfl

def byte : Decoder UInt8 := do return UInt8.ofNat (← number 1)

theorem run_byte_cons (b : UInt8) (rest : Bytes) : byte.run (b :: rest) = .ok (b, rest) := by
  have h : (number 1).run (b :: rest) = .ok (b.toNat, rest) := run_number_append [b] rest rfl
  rw [byte, StateT.run_bind, h]
  simp only [bind, Except.bind, UInt8.ofNat_toNat]
  rfl

def word32 : Decoder UInt32 := do return UInt32.ofNat (← number 4)

def word64 : Decoder UInt64 := do return UInt64.ofNat (← number 8)

def signed32 : Decoder Int32 := do return (← word32).toInt32

def hash256 : Decoder Hash256 := fun input =>
  match h : split? 32 input with
  | some (taken, rest) => .ok (⟨taken, (split_eq_some h).2⟩, rest)
  | none => .error .ended

def replicate {α : Type} (item : Decoder α) : Nat → Decoder (List α)
  | 0 => return []
  | n + 1 => do
    let first ← item
    let others ← replicate item n
    return first :: others

def decodeAll {α : Type} (item : Decoder α) (bytes : Bytes) : Except DecodeError α := do
  let (value, rest) ← item.run bytes
  if rest.isEmpty then return value else throw .trailing

end Decoder

/-! Writers that undo the readers of the same names. -/
namespace Encode

def word32 (w : UInt32) : Bytes := LittleEndian.encode 4 w.toNat

def word64 (w : UInt64) : Bytes := LittleEndian.encode 8 w.toNat

def signed32 (n : Int32) : Bytes := word32 n.toUInt32

end Encode
end ChainLens
