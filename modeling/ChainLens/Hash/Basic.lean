import ChainLens.Bytes.Hex
import ChainLens.Hash.Sha256

/-!
Hashes that name transactions, blocks and Merkle roots: thirty-two bytes from a double SHA-256. They
are shown to people with the last byte first.
-/

namespace ChainLens

/-- A string of thirty-two bytes in the order in which they are serialized. -/
structure Hash256 where
  bytes : Bytes
  length_eq : bytes.length = 32
  deriving DecidableEq

abbrev Txid := Hash256

abbrev BlockHash := Hash256

namespace Hash256

def double (message : Bytes) : Hash256 :=
  ⟨Sha256.digest (Sha256.digest message), Sha256.length_digest _⟩

def zero : Hash256 := ⟨List.replicate 32 0, by simp⟩

instance : Inhabited Hash256 := ⟨zero⟩

def display (h : Hash256) : String := Hex.encode h.bytes.reverse

inductive Fault
  | badLength
  | badDigit
  deriving DecidableEq, Repr

def Fault.message : Fault → String
  | .badLength => "failed to parse hex"
  | .badDigit => "failed to parse hex digit"

/-- Reads what `display` writes, with digits in either case. The length in bytes is judged first. -/
def parse (text : String) : Except Fault Hash256 :=
  if text.utf8ByteSize ≠ 64 then .error .badLength
  else match Hex.decodeChars text.toList with
    | some bytes =>
      if h : bytes.reverse.length = 32 then .ok ⟨bytes.reverse, h⟩ else .error .badDigit
    | none => .error .badDigit

/-- Reading what is displayed gives the hash back. -/
theorem parse_display (h : Hash256) : parse h.display = .ok h := by
  have hl : h.bytes.reverse.length = 32 := by rw [List.length_reverse, h.length_eq]
  have hs : h.display.utf8ByteSize = 64 := by rw [display, Hex.utf8_byte_size_encode, hl]
  have hc : h.display.toList = Hex.encodeChars h.bytes.reverse := by
    rw [display, Hex.encode, String.toList_ofList]
  simp only [parse, hs, hc, Hex.decode_chars_encode_chars, List.reverse_reverse, h.length_eq]
  rfl

end Hash256
end ChainLens
