/-!
Whole numbers in decimal digits, written without leading zeros and read with any number of them.
-/

namespace ChainLens.Text

def isDigit (c : Char) : Bool := 48 ≤ c.toNat && c.toNat ≤ 57

def digitValue (c : Char) : Nat := c.toNat - 48

def ofDigits (digits : List Char) : Nat := digits.foldl (fun n c => 10 * n + digitValue c) 0

def natOfChars? (digits : List Char) : Option Nat :=
  if digits.isEmpty || !digits.all isDigit then none else some (ofDigits digits)

def nat? (s : String) : Option Nat := natOfChars? s.toList

end ChainLens.Text
