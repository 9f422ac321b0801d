import ChainLens.Failure
import ChainLens.Text.Decimal

/-!
Blocks as people name them: by a height of up to ten digits or by a hash of sixty-four.
-/

namespace ChainLens

abbrev Height := UInt32

inductive BlockRef
  | height (height : Height)
  | hash (hash : BlockHash)
  deriving DecidableEq

namespace BlockRef

def isHexDigit (c : Char) : Bool := (Hex.value? c).isSome

def parse (text : String) : Except Refusal BlockRef :=
  let text := Text.trim text
  if text.utf8ByteSize = 64 ∧ text.toList.all isHexDigit then
    match Hash256.parse text with
    | .ok h => .ok (.hash h)
    | .error _ => .error (.blockRef text)
  else if 1 ≤ text.utf8ByteSize ∧ text.utf8ByteSize ≤ 10 ∧ text.toList.all Text.isDigit then
    let n := Text.ofDigits text.toList
    if n < UInt32.size then .ok (.height (UInt32.ofNat n)) else .error (.blockHeight text)
  else .error (.blockRef text)

def display : BlockRef → String
  | .height h => toString h.toNat
  | .hash h => h.display

end BlockRef

def parseTxid (text : String) : Except Refusal Txid :=
  let text := Text.trim text
  match Hash256.parse text with
  | .ok id => .ok id
  | .error fault => .error (.txid text fault)

/-- The script of an address on a network. The text is quoted as given when it is refused. -/
def scriptOfAddress (network : Network) (text : String) : Except Refusal Script :=
  match Address.parse (Text.trim text) with
  | .error fault => .error (.address text fault)
  | .ok address =>
    if address.validOn network then .ok address.script else .error (.foreignAddress text network)

/-- The script of an address on a network, or else a script in hexadecimal digits that is not
empty. -/
def scriptOfText (network : Network) (text : String) : Except Refusal Script :=
  let text := Text.trim text
  match scriptOfAddress network text with
  | .ok script => .ok script
  | .error refusal =>
    match Hex.decode text with
    | .ok (b :: rest) => .ok (b :: rest)
    | _ => .error refusal

end ChainLens
