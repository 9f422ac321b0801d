import ChainLens.Bytes.Hex
import ChainLens.Json.Value

/-!
The JSON grammar. A text is one value with white space around it. Nothing else may follow it;
control characters inside texts, unknown escapes and superfluous zeros are refused.
-/

namespace ChainLens.Json

abbrev Rest := List Char

def isSpace (c : Char) : Bool := c == ' ' || c == '\n' || c == '\t' || c == '\r'

def skipSpace (input : Rest) : Rest := input.dropWhile isSpace

/-- A piece of a text: a character, or half a surrogate pair named by an escape. -/
inductive TextUnit
  | char (c : Char)
  | half (code : Nat)

def escapedUnit? (digits : List Char) : Option TextUnit := do
  let values ← digits.mapM Hex.value?
  let code := values.foldl (fun n d => 16 * n + d) 0
  return if 0xD800 ≤ code ∧ code ≤ 0xDFFF then .half code else .char (Char.ofNat code)

def escaped? : Char → Option Char
  | '"' => some '"'
  | '\\' => some '\\'
  | '/' => some '/'
  | 'b' => some '\x08'
  | 'f' => some '\x0c'
  | 'n' => some '\n'
  | 'r' => some '\r'
  | 't' => some '\t'
  | _ => none

def readUnits : Rest → Option (List TextUnit × Rest)
  | [] => none
  | '"' :: rest => some ([], rest)
  | '\\' :: 'u' :: a :: b :: c :: d :: rest => do
    let unit ← escapedUnit? [a, b, c, d]
    let (units, rest) ← readUnits rest
    return (unit :: units, rest)
  | '\\' :: c :: rest => do
    let char ← escaped? c
    let (units, rest) ← readUnits rest
    return (.char char :: units, rest)
  | c :: rest => do
    guard (c != '\\' && 0x20 ≤ c.toNat)
    let (units, rest) ← readUnits rest
    return (.char c :: units, rest)

/-- Joins the halves of pairs; `none` when a half stands alone. -/
def joinUnits : List TextUnit → Option (List Char)
  | [] => some []
  | .char c :: rest => (joinUnits rest).map (c :: ·)
  | .half high :: .half low :: rest =>
    if high < 0xDC00 ∧ 0xDC00 ≤ low then
      (joinUnits rest).map (Char.ofNat (0x10000 + (high - 0xD800) * 0x400 + (low - 0xDC00)) :: ·)
    else none
  | .half _ :: _ => none

def readText (input : Rest) : Option (JsonText × Rest) := do
  let (units, rest) ← readUnits input
  return ((joinUnits units).map String.ofList, rest)

def readDigits (input : Rest) : Option (List Char × Rest) :=
  match input.takeWhile Text.isDigit with
  | [] => none
  | digits => some (digits, input.dropWhile Text.isDigit)

def readFraction : Rest → Option (Option (List Char) × Rest)
  | '.' :: rest => (readDigits rest).map fun (digits, rest) => (some digits, rest)
  | rest => some (none, rest)

def readSignedDigits : Rest → Option (Int × Rest)
  | '-' :: rest => (readDigits rest).map fun (digits, rest) => (-(Text.ofDigits digits : Int), rest)
  | '+' :: rest => (readDigits rest).map fun (digits, rest) => ((Text.ofDigits digits : Int), rest)
  | rest => (readDigits rest).map fun (digits, rest) => ((Text.ofDigits digits : Int), rest)

def readExponent : Rest → Option (Option Int × Rest)
  | 'e' :: rest | 'E' :: rest => (readSignedDigits rest).map fun (n, rest) => (some n, rest)
  | rest => some (none, rest)

def readUnsigned (negative : Bool) (input : Rest) : Option (JsonNumber × Rest) := do
  let (digits, rest) ← readDigits input
  guard (digits.length == 1 || digits.head? != some '0')
  let (fraction, rest) ← readFraction rest
  let (exponent, rest) ← readExponent rest
  let n := Text.ofDigits digits
  if fraction.isNone && exponent.isNone && !(negative && n == 0) then
    return (.whole (if negative then -n else n), rest)
  else return (.decimal negative digits (fraction.getD []) (exponent.getD 0), rest)

def readNumber : Rest → Option (JsonNumber × Rest)
  | '-' :: rest => readUnsigned true rest
  | rest => readUnsigned false rest

def readWord : List Char → Rest → Option Rest
  | [], rest => some rest
  | c :: word, d :: rest => if c = d then readWord word rest else none
  | _ :: _, [] => none

mutual

/-- A value, with white space before it. The fuel bounds the number of steps. -/
def readValue : Nat → Rest → Option (Json × Rest)
  | 0, _ => none
  | fuel + 1, input =>
    match skipSpace input with
    | '"' :: rest => (readText rest).map fun (t, rest) => (.string t, rest)
    | '[' :: rest =>
      match skipSpace rest with
      | ']' :: rest => some (.array [], rest)
      | rest => (readItems fuel rest).map fun (items, rest) => (.array items, rest)
    | '\x7b' :: rest =>
      match skipSpace rest with
      | '\x7d' :: rest => some (.object [], rest)
      | rest => (readMembers fuel rest).map fun (members, rest) => (.object members, rest)
    | 'n' :: rest => (readWord ['u', 'l', 'l'] rest).map fun rest => (.null, rest)
    | 't' :: rest => (readWord ['r', 'u', 'e'] rest).map fun rest => (.bool true, rest)
    | 'f' :: rest => (readWord ['a', 'l', 's', 'e'] rest).map fun rest => (.bool false, rest)
    | rest => (readNumber rest).map fun (n, rest) => (.number n, rest)

def readItems : Nat → Rest → Option (List Json × Rest)
  | 0, _ => none
  | fuel + 1, input => do
    let (first, rest) ← readValue fuel input
    match skipSpace rest with
    | ',' :: rest =>
      let (others, rest) ← readItems fuel rest
      return (first :: others, rest)
    | ']' :: rest => return ([first], rest)
    | _ => none

def readMembers : Nat → Rest → Option (List (JsonText × Json) × Rest)
  | 0, _ => none
  | fuel + 1, input => do
    let '"' :: rest := skipSpace input | none
    let (key, rest) ← readText rest
    let ':' :: rest := skipSpace rest | none
    let (value, rest) ← readValue fuel rest
    match skipSpace rest with
    | ',' :: rest =>
      let (others, rest) ← readMembers fuel rest
      return ((key, value) :: others, rest)
    | '\x7d' :: rest => return ([(key, value)], rest)
    | _ => none

end

def parse? (text : String) : Option Json := do
  let input := text.toList
  let (value, rest) ← readValue (2 * input.length + 2) input
  if (skipSpace rest).isEmpty then some value else none

end ChainLens.Json
