import ChainLens.Hash.Basic
import ChainLens.Json.Value

/-!
Typed readings of JSON. A record is an object, or an array of its fields in order. In an object
unknown keys are passed over, a field given twice is refused under any of its names, and keys have
to be whole texts. In an array no element may be surplus, and only fields with a fallback may be
missing at its end.
-/

namespace ChainLens.Shape

inductive Slot
  | value (json : Json)
  /-- The object has no key for the field. -/
  | noKey
  /-- The array ended before the field. -/
  | noElement

/-- The slot of a field in an object; `none` when it is given twice. -/
def slotOf (names : List String) (members : List (JsonText × Json)) : Option Slot :=
  match members.filter fun (key, _) => names.any fun n => key == some n with
  | [] => some .noKey
  | [(_, json)] => some (.value json)
  | _ => none

def slotsOfItems : List (List String) → List Json → Option (List Slot)
  | [], [] => some []
  | [], _ :: _ => none
  | _ :: fields, [] => (slotsOfItems fields []).map (.noElement :: ·)
  | _ :: fields, item :: items => (slotsOfItems fields items).map (.value item :: ·)

/-- The slots of a record whose fields have the given names, the first of each being its proper
name. -/
def slots (fields : List (List String)) : Json → Option (List Slot)
  | .object members =>
    if members.all fun (key, _) => key.isSome then fields.mapM fun names => slotOf names members
    else none
  | .array items => slotsOfItems fields items
  | _ => none

namespace Slot

def required {α : Type} (read : Json → Option α) : Slot → Option α
  | .value json => read json
  | _ => none

def optional {α : Type} (read : Json → Option α) : Slot → Option (Option α)
  | .value .null => some none
  | .value json => (read json).map some
  | .noKey => some none
  | .noElement => none

def orElse {α : Type} (read : Json → Option α) (fallback : α) : Slot → Option α
  | .value json => read json
  | _ => some fallback

end Slot

def text (json : Json) : Option String := json.string?

def inRange (low high : Int) (json : Json) : Option Int := do
  let n ← json.int?
  if low ≤ n ∧ n ≤ high then some n else none

def below (bound : Nat) (json : Json) : Option Nat :=
  (inRange 0 ((bound : Int) - 1) json).map Int.toNat

def word32 (json : Json) : Option UInt32 := (below UInt32.size json).map UInt32.ofNat

def unsigned64 (json : Json) : Option Nat := below UInt64.size json

def word64 (json : Json) : Option UInt64 := (unsigned64 json).map UInt64.ofNat

def signed64 (json : Json) : Option Int := inRange Int64.minValue.toInt Int64.maxValue.toInt json

def hash (json : Json) : Option Hash256 := do
  let s ← json.string?
  (Hash256.parse s).toOption

def hexBytes (json : Json) : Option Bytes := do
  let s ← json.string?
  (Hex.decode s).toOption

def list {α : Type} (read : Json → Option α) (json : Json) : Option (List α) := do
  let items ← json.items?
  items.mapM read

end ChainLens.Shape
