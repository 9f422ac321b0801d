import ChainLens.Text.Split

/-!
Labels of domain names beyond ASCII in an ASCII form: the ASCII characters of the label in order, a
hyphen, and then numbers that tell where the other characters stand, the least character first. Each
number counts the places and values passed over since the one before, in digits whose thresholds
adapt to the numbers already written. Numbers have at most 32 bits.
-/

namespace ChainLens.Web.Punycode

/-- A digit below 36: letters first, then decimal digits. -/
def digit (n : Nat) : Char := Char.ofNat (if n < 26 then 97 + n else 22 + n)

/-- The threshold of a place, between 1 and 26. A digit below it is the last one. -/
def threshold (place bias : Nat) : Nat := min 26 (max 1 (place - bias))

theorem threshold_pos (place bias : Nat) : 1 ≤ threshold place bias := by
  unfold threshold
  omega

def number (bias place n : Nat) : List Char :=
  let t := threshold place bias
  if n < t then [digit n]
  else digit (t + (n - t) % (36 - t)) :: number bias (place + 36) ((n - t) / (36 - t))
termination_by n
decreasing_by
  have h := threshold_pos place bias
  have hle : (n - threshold place bias) / (36 - threshold place bias) ≤ n - threshold place bias :=
    Nat.div_le_self _ _
  omega

/-- Divides by 35 until 455 is not exceeded, and counts 36 for each time. -/
def shrink (n count : Nat) : Nat × Nat :=
  if 455 < n then shrink (n / 35) (count + 36) else (n, count)
termination_by n
decreasing_by exact Nat.div_lt_self (by omega) (by omega)

def adapt (n handled : Nat) (isFirst : Bool) : Nat :=
  let n := if isFirst then n / 700 else n / 2
  let (n, count) := shrink (n + n / handled) 0
  count + 36 * n / (n + 38)

structure Progress where
  written : List Char
  /-- What has been passed over since the last number. -/
  passed : Nat
  bias : Nat
  /-- The characters placed so far. -/
  handled : Nat

/-- Goes over one character of the label while those of the value `code` are placed. -/
def visit (basic code : Nat) (p : Progress) (c : Char) : Progress :=
  if c.toNat < code then { p with passed := p.passed + 1 }
  else if c.toNat = code then
    { written := p.written ++ number p.bias 36 p.passed
      passed := 0
      bias := adapt p.passed (p.handled + 1) (p.handled == basic)
      handled := p.handled + 1 }
  else p

/-- Places the characters with each of the given values, in ascending order, the search having
reached `next`. -/
def place (label : List Char) (basic : Nat) : Nat → List Nat → Progress → Progress
  | _, [], p => p
  | next, code :: codes, p =>
    let p := { p with passed := p.passed + (code - next) * (p.handled + 1) }
    let p := label.foldl (visit basic code) p
    place label basic (code + 1) codes { p with passed := p.passed + 1 }

def isBasic (c : Char) : Bool := c.toNat < 0x80

def encode (label : List Char) : List Char :=
  let basic := label.filter isBasic
  let codes := ((label.filter fun c => !isBasic c).map Char.toNat).eraseDups.mergeSort
  let start : Progress := { written := [], passed := 0, bias := 72, handled := basic.length }
  let hyphen := if basic.isEmpty then [] else ['-']
  basic ++ hyphen ++ (place label basic.length 0x80 codes start).written

def value? (c : Char) : Option Nat :=
  if 'a' ≤ c ∧ c ≤ 'z' then some (c.toNat - 97)
  else if '0' ≤ c ∧ c ≤ '9' then some (c.toNat - 22)
  else none

/-- Adds the number that a text begins with from a place on to a sum. The result is the sum and what
follows the number. -/
def add? (bias place weight sum : Nat) : List Char → Option (Nat × List Char)
  | [] => none
  | c :: rest =>
    match value? c with
    | none => none
    | some n =>
      let t := threshold place bias
      let sum := sum + n * weight
      if UInt32.size ≤ sum then none
      else if n < t then some (sum, rest)
      else if UInt32.size ≤ weight * (36 - t) then none
      else add? bias (place + 36) (weight * (36 - t)) sum rest

/-- Every number takes at least one digit, so the text gets shorter. -/
theorem length_lt_of_add {bias place weight sum total : Nat} {text rest : List Char}
    (h : add? bias place weight sum text = some (total, rest)) : rest.length < text.length := by
  fun_induction add? bias place weight sum text with
  | case1 => exact absurd h (by simp)
  | case2 => exact absurd h (by simp)
  | case3 => exact absurd h (by simp)
  | case4 place weight sum c text n hn t s hs hlast =>
    obtain ⟨rfl, rfl⟩ := Prod.mk.inj (Option.some.inj h)
    exact Nat.lt_succ_self _
  | case5 => exact absurd h (by simp)
  | case6 place weight sum c text n hn t s hs hlast hw ih => exact Nat.lt_succ_of_lt (ih h)

/-- Puts the characters that numbers tell into a text. The search has reached the place `i` and the
value `code`. -/
def insertAll? (text : List Char) (i code bias : Nat) (numbers : List Char) : Option (List Char) :=
  if numbers.isEmpty then some text
  else
    match _h : add? bias 36 1 i numbers with
    | none => none
    | some (total, rest) =>
      let size := text.length + 1
      let code := code + total / size
      if code.isValidChar then
        insertAll? (text.insertIdx (total % size) (Char.ofNat code)) (total % size + 1) code
          (adapt (total - i) size (i == 0)) rest
      else none
termination_by numbers.length
decreasing_by exact length_lt_of_add _h

def decode? (form : List Char) : Option (List Char) :=
  match Text.splitLast? '-' form with
  | some ([], _) => none
  | some (basic, numbers) => insertAll? basic 0 0x80 72 numbers
  | none => insertAll? [] 0 0x80 72 form

end ChainLens.Web.Punycode
