import ChainLens.Chain.Transaction

/-!
Scripts read as a sequence of instructions: pushes of data and other operations. A push that
announces more bytes than follow is broken, and nothing after it is read.
-/

namespace ChainLens.Script

inductive Instruction
  | push (data : Bytes)
  | operation (code : UInt8)
  /-- A push that runs past the end of the script. -/
  | broken
  deriving DecidableEq

inductive PushForm
  /-- The operation itself is the length. -/
  | direct (length : Nat)
  /-- The length follows in this many bytes, the least first. -/
  | counted (width : Nat)

/-- Codes up to 75 push that many bytes, and the next three announce a length of one, two and four
bytes. -/
def pushForm? (code : UInt8) : Option PushForm :=
  if code ≤ 75 then some (.direct code.toNat)
  else if code = 76 then some (.counted 1)
  else if code = 77 then some (.counted 2)
  else if code = 78 then some (.counted 4)
  else none

def PushForm.take? : PushForm → Bytes → Option (Bytes × Bytes)
  | .direct length, rest => Decoder.split? length rest
  | .counted width, rest => do
    let (count, rest) ← Decoder.split? width rest
    Decoder.split? (LittleEndian.decode count) rest

theorem length_take_le {form : PushForm} {input data rest : Bytes}
    (h : form.take? input = some (data, rest)) : rest.length ≤ input.length := by
  have shorter {n : Nat} {i t r : Bytes} (hs : Decoder.split? n i = some (t, r)) : r.length ≤
      i.length := by
    obtain ⟨rfl, -⟩ := Decoder.split_eq_some hs
    simp
  cases form with
  | direct length => exact shorter h
  | counted width =>
    simp only [PushForm.take?, Option.bind_eq_bind, Option.bind_eq_some_iff, Prod.exists] at h
    obtain ⟨count, rest', hc, hd⟩ := h
    exact Nat.le_trans (shorter hd) (shorter hc)

def instructions : Script → List Instruction
  | [] => []
  | code :: rest =>
    match pushForm? code with
    | none => .operation code :: instructions rest
    | some form =>
      match _taken : form.take? rest with
      | none => [.broken]
      | some (data, after) => .push data :: instructions after
termination_by script => script.length
decreasing_by
  · simp
  · have := length_take_le _taken
    simp only [List.length_cons]
    omega

/-- The concatenated data of all pushes up to the end or the first broken push. -/
def pushedData (script : Script) : Bytes :=
  (instructions script).flatMap fun
    | .push data => data
    | _ => []

def smallNumber? (code : UInt8) : Option Nat :=
  if 0x51 ≤ code ∧ code ≤ 0x60 then some (code.toNat - 0x50) else none

end ChainLens.Script
