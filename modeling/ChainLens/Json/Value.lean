import ChainLens.Text.Decimal

/-!
JSON as data. Texts may be broken by an escape that names half a surrogate pair; numbers keep their
digits.
-/

namespace ChainLens

/-- A JSON text; `none` when an escape in it names half a surrogate pair. -/
abbrev JsonText := Option String

/-- A JSON number as written, and a binary number to be written in its shortest form. -/
inductive JsonNumber
  /-- A number without fraction and exponent; minus zero is not one of them. -/
  | whole (value : Int)
  /-- A number with its digits before and after the point and its exponent. -/
  | decimal (negative : Bool) (digits fraction : List Char) (exponent : Int)
  | binary (value : Float)

inductive Json
  | null
  | bool (value : Bool)
  | number (value : JsonNumber)
  | string (value : JsonText)
  | array (items : List Json)
  | object (members : List (JsonText × Json))

namespace Json

instance : Inhabited Json := ⟨null⟩

def text (s : String) : Json := .string (some s)

def int (n : Int) : Json := .number (.whole n)

def nat (n : Nat) : Json := .number (.whole n)

def record (members : List (String × Json)) : Json :=
  .object (members.map fun (key, value) => (some key, value))

def orNull {α : Type} (f : α → Json) : Option α → Json
  | some a => f a
  | none => .null

def get? (key : String) : Json → Option Json
  | .object members => (members.reverse.find? fun (k, _) => k == some key).map Prod.snd
  | _ => none

def string? : Json → Option String
  | .string s => s
  | _ => none

def int? : Json → Option Int
  | .number (.whole n) => some n
  | _ => none

def items? : Json → Option (List Json)
  | .array items => some items
  | _ => none

def bool? : Json → Option Bool
  | .bool b => some b
  | _ => none

def isNull : Json → Bool
  | .null => true
  | _ => false

end Json
end ChainLens
