import ChainLens.Json.Value

/-!
JSON values that are kept whole instead of being read into a record. Of a key given twice the last
value stays, keys are sorted, texts have to be whole, and numbers become integers of 64 bits or
binary numbers.
-/

namespace ChainLens.Json

def nestingLimit : Nat := 128

/-- The digits that fit into 64 bits, as a number, and how many are left over. -/
def fitDigits : Nat → List Char → Nat × Nat
  | n, [] => (n, 0)
  | n, c :: rest =>
    let next := 10 * n + Text.digitValue c
    if next < UInt64.size then fitDigits next rest else (n, rest.length + 1)

/-- Divides or multiplies by a power of ten, in steps of 308 downwards; `none` beyond the finite
numbers. -/
def scaleTen : Nat → Float → Int → Option Float
  | 0, _, _ => some 0.0
  | fuel + 1, x, exponent =>
    if exponent.natAbs ≤ 308 then
      -- One rounding for the power of ten and one for the product or quotient.
      let y := if 0 ≤ exponent then x * Float.ofScientific 1 false exponent.toNat
        else x / Float.ofScientific 1 false exponent.natAbs
      if y.isInf then none else some y
    else if x == 0.0 then some 0.0
    else if 0 ≤ exponent then none
    else scaleTen fuel (x / 1e308) (exponent + 308)

/-- The binary number of a decimal, from as many leading digits as fit into 64 bits. -/
def binaryOf (negative : Bool) (digits fraction : List Char) (exponent : Int) : Option Float := do
  let (whole, dropped) := fitDigits 0 digits
  let (n, used) :=
    if dropped = 0 then
      let (n, left) := fitDigits whole fraction
      (n, fraction.length - left)
    else (whole, 0)
  let x ← scaleTen 8 (Float.ofNat n) (exponent + dropped - used)
  return if negative then -x else x

def settleNumber : JsonNumber → Option JsonNumber
  | .whole n =>
    if Int64.minValue.toInt ≤ n ∧ n < UInt64.size then some (.whole n)
    else (binaryOf (n < 0) (toString n.natAbs).toList [] 0).map .binary
  | .decimal negative digits fraction exponent =>
    (binaryOf negative digits fraction exponent).map .binary
  | .binary x => some (.binary x)

def insertMember (key : String) (value : Json) : List (JsonText × Json) → List (JsonText × Json)
  | [] => [(some key, value)]
  | (k, v) :: rest =>
    let k' := k.getD ""
    if key < k' then (some key, value) :: (k, v) :: rest
    else if key = k' then (k, value) :: rest
    else (k, v) :: insertMember key value rest

mutual

/-- The settled form of a value that may nest less than `depth` deep. -/
def settleWithin : Nat → Json → Option Json
  | _, .null => some .null
  | _, .bool b => some (.bool b)
  | _, .number n => (settleNumber n).map .number
  | _, .string t => t.map fun s => .string (some s)
  | depth, .array items => if depth ≤ 1 then none else (settleItems (depth - 1) items).map .array
  | depth, .object members =>
    if depth ≤ 1 then none else (settleMembers (depth - 1) members []).map .object

def settleItems : Nat → List Json → Option (List Json)
  | _, [] => some []
  | depth, item :: rest => do
    let item ← settleWithin depth item
    let rest ← settleItems depth rest
    return item :: rest

def settleMembers :
    Nat → List (JsonText × Json) → List (JsonText × Json) → Option (List (JsonText × Json))
  | _, [], done => some done
  | depth, (key, value) :: rest, done => do
    let key ← key
    let value ← settleWithin depth value
    settleMembers depth rest (insertMember key value done)

end

def settle (json : Json) : Option Json := settleWithin (nestingLimit - 1) json

end ChainLens.Json
