import ChainLens.Bytes.Hex
import ChainLens.Text.Split

/-!
Tables of what holds of characters, by spans of neighbouring code points in ascending order. A table
is written as words: a span in base sixteen, such as `E9` or `41-5A`, and after it what holds of the
characters in it.
-/

namespace ChainLens.Text

structure Span (α : Type) where
  first : Nat
  last : Nat
  value : α

structure SpanTable (α : Type) where
  spans : Array (Span α)

namespace SpanTable

variable {α : Type}

/-- Looks for the span of a code point among those at the places from `low` up to `high`. -/
def search (spans : Array (Span α)) (n low high : Nat) : Option (Span α) :=
  if low < high then
    let middle := (low + high) / 2
    match spans[middle]? with
    | some span =>
      if n < span.first then search spans n low middle
      else if span.last < n then search spans n (middle + 1) high
      else some span
    | none => none
  else none
termination_by high - low

def find? (table : SpanTable α) (c : Char) : Option (Span α) :=
  search table.spans c.toNat 0 table.spans.size

def isSpanChar (c : Char) : Bool := c.isDigit || ('A' ≤ c && c ≤ 'F')

def number? (digits : List Char) : Option Nat := do
  guard !digits.isEmpty
  return (← digits.mapM Hex.value?).foldl (fun n d => 16 * n + d) 0

/-- A word of a table; `value?` reads what follows the span. -/
def span? (value? : List Char → Option α) (word : List Char) : Option (Span α) := do
  let (first, rest) := cut (fun c => !isSpanChar c) word
  let (last, rest) := match rest with
    | '-' :: rest => cut (fun c => !isSpanChar c) rest
    | _ => (first, rest)
  return { first := ← number? first, last := ← number? last, value := ← value? rest }

def read (value? : List Char → Option α) (text : String) : SpanTable α :=
  ⟨((words text).filterMap (span? value?)).toArray⟩

def characters? (text : List Char) : Option (List Char) :=
  (splitOn '+' text).mapM fun digits => (number? digits).map Char.ofNat

/-- Lists of characters with commas between them, one for each code point of a span. -/
def entries? (text : List Char) : Option (Array (List Char)) :=
  ((splitOn ',' text).mapM characters?).map List.toArray

end SpanTable
end ChainLens.Text
