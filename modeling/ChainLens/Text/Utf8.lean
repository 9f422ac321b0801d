import ChainLens.Bytes.LittleEndian

/-!
UTF-8 as a machine over bytes. A reading is a list of pieces, each a character or an ill-formed
stretch: the longest run of bytes that begins some character without completing it, or a single byte
that begins none.
-/

namespace ChainLens.Utf8

/-- Where the machine stands: between characters, or with bytes owed. The next owed byte lies in
`low..high`, and `value` holds the bits read so far. -/
inductive State
  | between
  | owing (count low high value : Nat)
  deriving DecidableEq, Repr

/-- One piece of a reading; `none` is an ill-formed stretch. -/
abbrev Piece := Option Char

def start (b : Nat) : State × List Piece :=
  if b < 0x80 then (.between, [some (Char.ofNat b)])
  else if b < 0xC2 then (.between, [none])
  else if b < 0xE0 then (.owing 1 0x80 0xBF (b - 0xC0), [])
  else if b = 0xE0 then (.owing 2 0xA0 0xBF 0, [])
  else if b = 0xED then (.owing 2 0x80 0x9F 0xD, [])
  else if b < 0xF0 then (.owing 2 0x80 0xBF (b - 0xE0), [])
  else if b = 0xF0 then (.owing 3 0x90 0xBF 0, [])
  else if b < 0xF4 then (.owing 3 0x80 0xBF (b - 0xF0), [])
  else if b = 0xF4 then (.owing 3 0x80 0x8F 4, [])
  else (.between, [none])

/-- A byte outside the range owed ends an ill-formed stretch and is then read afresh. -/
def step : State → Nat → State × List Piece
  | .between, b => start b
  | .owing count low high value, b =>
    if low ≤ b ∧ b ≤ high then
      let value := value * 64 + (b - 0x80)
      if count ≤ 1 then (.between, [some (Char.ofNat value)])
      else (.owing (count - 1) 0x80 0xBF value, [])
    else
      let (state, pieces) := start b
      (state, none :: pieces)

/-- The pieces from a state on; bytes still owed at the end make an ill-formed stretch. -/
def pieces : State → Bytes → List Piece
  | .between, [] => []
  | .owing _ _ _ _, [] => [none]
  | state, b :: rest =>
    let (state, out) := step state b.toNat
    out ++ pieces state rest

def decodeLossy (bytes : Bytes) : String :=
  String.ofList ((pieces .between bytes).map fun p => p.getD '\uFFFD')

def decode? (bytes : Bytes) : Option String :=
  ((pieces .between bytes).mapM id).map String.ofList

def encode (s : String) : Bytes := s.toUTF8.toList

end ChainLens.Utf8
