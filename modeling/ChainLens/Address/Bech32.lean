import ChainLens.Address.Network
import ChainLens.Bytes.LittleEndian

/-!
Segwit addresses: a label, the separator `1`, a witness version, the program in groups of five bits
and a checksum of six digits. Version 0 and the later versions end on different checksum constants.
-/

namespace ChainLens.Bech32

def alphabet : List Char := "qpzry9x8gf2tvdw0s3jn54khce6mua7l".toList

def digit (value : Nat) : Char := alphabet.getD value 'q'

/-- One step of the checksum: the remainder times x plus a value, modulo the generator. -/
def polymodStep (acc value : Nat) : Nat :=
  let top := acc >>> 25
  let shifted := (acc % 0x2000000 * 32) ^^^ value
  let terms := [0x3b6a57b2, 0x26508e6d, 0x1ea119fa, 0x3d4233dd, 0x2a1462b3]
  (terms.zipIdx.filter fun (_, i) => top.testBit i).foldl
    (fun acc (term, _) => acc ^^^ term) shifted

def polymod (values : List Nat) : Nat := values.foldl polymodStep 1

/-- The label as checksum input: the high bits of its characters, a zero, the low bits. -/
def expand (label : List Char) : List Nat :=
  label.map (fun c => c.toNat / 32) ++ 0 :: label.map fun c => c.toNat % 32

/-- The checksum constant: version 0 has the older one. -/
def target (version : Nat) : Nat := if version = 0 then 1 else 0x2bc830a3

/-- Six values that bring the checksum of label and data to its constant. -/
def checksum (label : List Char) (version : Nat) (data : List Nat) : List Nat :=
  let residue := polymod (expand label ++ data ++ List.replicate 6 0) ^^^ target version
  [25, 20, 15, 10, 5, 0].map fun place => (residue >>> place) % 32

def bits : Nat → Nat → List Bool
  | 0, _ => []
  | width + 1, n => n.testBit width :: bits width n

def ofBits (l : List Bool) : Nat := l.foldl (fun n b => 2 * n + b.toNat) 0

/-- Cuts a list into groups of `width`, of which the last may be shorter. -/
def groups {α : Type} (width : Nat) : Nat → List α → List (List α)
  | 0, _ => []
  | _ + 1, [] => []
  | fuel + 1, l => l.take width :: groups width fuel (l.drop width)

/-- A program in values of five bits, the last filled up with zeros. -/
def toFives (program : Bytes) : List Nat :=
  let all := program.flatMap fun b => bits 8 b.toNat
  (groups 5 all.length all).map fun g => ofBits (g ++ List.replicate (5 - g.length) false)

/-- The program of values of five bits; at most four bits may remain, all zero. -/
def ofFives? (values : List Nat) : Option Bytes :=
  let all := values.flatMap (bits 5)
  let whole := all.length / 8 * 8
  let rest := all.drop whole
  if rest.length < 5 ∧ rest.all (· == false) then
    some ((groups 8 whole (all.take whole)).map fun g => UInt8.ofNat (ofBits g))
  else none

def encodeChars (label : List Char) (version : Nat) (program : Bytes) : List Char :=
  let data := version :: toFives program
  label ++ '1' :: (data ++ checksum label version data).map digit

def isLabelChar (c : Char) : Bool := 33 ≤ c.toNat && c.toNat ≤ 126

def isUpper (c : Char) : Bool := 65 ≤ c.toNat && c.toNat ≤ 90

def isLower (c : Char) : Bool := 97 ≤ c.toNat && c.toNat ≤ 122

def lower (c : Char) : Char := if isUpper c then Char.ofNat (c.toNat + 32) else c

def splitSeparator? (text : List Char) : Option (List Char × List Char) :=
  let tail := text.reverse.takeWhile (· != '1')
  if tail.length < text.length then
    some (text.take (text.length - tail.length - 1), tail.reverse)
  else none

/-- Versions go up to 16; a program has 2 to 40 bytes, and 20 or 32 in version 0. -/
def programFits (version : Nat) (program : Bytes) : Bool :=
  version ≤ 16 && 2 ≤ program.length && program.length ≤ 40 &&
  (version != 0 || program.length == 20 || program.length == 32)

/-- Whatever the version, a program has two to forty bytes. -/
theorem program_fits_bounds {version : Nat} {program : Bytes}
    (h : programFits version program = true) :
    version ≤ 16 ∧ 2 ≤ program.length ∧ program.length ≤ 40 := by
  simp only [programFits, Bool.and_eq_true, decide_eq_true_eq] at h
  obtain ⟨⟨⟨hversion, hlow⟩, hhigh⟩, -⟩ := h
  exact ⟨hversion, hlow, hhigh⟩

/-- A well-formed segwit address: its label in lower case, version and program. -/
structure Parts where
  label : List Char
  version : Nat
  program : Bytes
  deriving DecidableEq

def decodeChars (text : List Char) : Option Parts := do
  guard (text.length ≤ 90)
  guard (!(text.any isUpper && text.any isLower))
  let (label, tail) ← splitSeparator? (text.map lower)
  guard (!label.isEmpty && label.all isLabelChar)
  let values ← tail.mapM alphabet.idxOf?
  let (version :: fives) := values.take (values.length - 6) | none
  guard (6 < values.length && polymod (expand label ++ values) == target version)
  let program ← ofFives? fives
  guard (programFits version program)
  return { label, version, program }

end ChainLens.Bech32
