import ChainLens.Bytes.Hex
import ChainLens.Json.Value
import ChainLens.Text.Shortest

/-!
JSON as text, compact or indented by two spaces.
-/

namespace ChainLens.Json

/-- A character inside a text: quotes, backslashes and controls are escaped. -/
def escapeChar (c : Char) : List Char :=
  if c == '"' then ['\\', '"']
  else if c == '\\' then ['\\', '\\']
  else if c == '\x08' then ['\\', 'b']
  else if c == '\x0c' then ['\\', 'f']
  else if c == '\n' then ['\\', 'n']
  else if c == '\r' then ['\\', 'r']
  else if c == '\t' then ['\\', 't']
  else if c.toNat < 0x20 then
    ['\\', 'u', '0', '0', Hex.digit (c.toNat / 16), Hex.digit (c.toNat % 16)]
  else [c]

def quote (s : String) : String := String.ofList ('"' :: s.toList.flatMap escapeChar ++ ['"'])

/-- A broken text has no written form; an empty one stands in for it. -/
def quoteText (t : JsonText) : String := quote (t.getD "")

def renderNumber : JsonNumber → String
  | .whole n => toString n
  | .decimal negative digits fraction exponent =>
    let sign := if negative then "-" else ""
    let point := if fraction.isEmpty then "" else "." ++ String.ofList fraction
    let power := if exponent = 0 then "" else "e" ++ toString exponent
    sign ++ String.ofList digits ++ point ++ power
  | .binary x => Shortest.render x

mutual

def compact : Json → String
  | .null => "null"
  | .bool b => if b then "true" else "false"
  | .number n => renderNumber n
  | .string t => quoteText t
  | .array items => "[" ++ String.intercalate "," (compactItems items) ++ "]"
  | .object members => "\x7b" ++ String.intercalate "," (compactMembers members) ++ "\x7d"

def compactItems : List Json → List String
  | [] => []
  | item :: rest => compact item :: compactItems rest

def compactMembers : List (JsonText × Json) → List String
  | [] => []
  | (key, value) :: rest => (quoteText key ++ ":" ++ compact value) :: compactMembers rest

end

def newline (depth : Nat) : String := String.ofList ('\n' :: List.replicate (2 * depth) ' ')

mutual

/-- The text with one item or member a line; empty brackets stay together. -/
def pretty (depth : Nat) : Json → String
  | .array [] => "[]"
  | .object [] => "\x7b\x7d"
  | .array items =>
    "[" ++ newline (depth + 1) ++
        String.intercalate ("," ++ newline (depth + 1)) (prettyItems (depth + 1) items) ++
      newline depth ++ "]"
  | .object members =>
    "\x7b" ++ newline (depth + 1) ++
      String.intercalate ("," ++ newline (depth + 1)) (prettyMembers (depth + 1) members) ++
        newline depth ++ "\x7d"
  | .null => "null"
  | .bool b => if b then "true" else "false"
  | .number n => renderNumber n
  | .string t => quoteText t

def prettyItems (depth : Nat) : List Json → List String
  | [] => []
  | item :: rest => pretty depth item :: prettyItems depth rest

def prettyMembers (depth : Nat) : List (JsonText × Json) → List String
  | [] => []
  | (key, value) :: rest =>
    (quoteText key ++ ": " ++ pretty depth value) :: prettyMembers depth rest

end

def escapeUnit (code : Nat) : List Char :=
  '\\' :: 'u' :: [code / 0x1000, code / 0x100 % 16, code / 16 % 16, code % 16].map Hex.digit

/-- A character beyond ASCII as one escape, or as two if it lies beyond the first 65536. -/
def escapeBeyondAscii (c : Char) : List Char :=
  let n := c.toNat
  if n < 0x80 then [c]
  else if n < 0x10000 then escapeUnit n
  else escapeUnit (0xD800 + (n - 0x10000) / 0x400) ++ escapeUnit (0xDC00 + (n - 0x10000) % 0x400)

/-- The compact text in ASCII. Other characters stand only inside texts, where an escape means the
same. -/
def compactAscii (json : Json) : String :=
  String.ofList (json.compact.toList.flatMap escapeBeyondAscii)

end ChainLens.Json
