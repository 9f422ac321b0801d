/-!
The white space that surrounds typed text: the characters with the Unicode property White_Space,
which the zero-width space, the byte order mark and NUL do not have.
-/

namespace ChainLens.Text

def isBlank (c : Char) : Bool :=
  let n := c.toNat
  (9 ≤ n && n ≤ 13) || n == 0x20 || n == 0x85 || n == 0xA0 || n == 0x1680 ||
  (0x2000 ≤ n && n ≤ 0x200A) || n == 0x2028 || n == 0x2029 || n == 0x202F || n == 0x205F ||
  n == 0x3000

def dropEndWhile {α : Type} (p : α → Bool) (l : List α) : List α := (l.reverse.dropWhile p).reverse

def trimChars (l : List Char) : List Char := dropEndWhile isBlank (l.dropWhile isBlank)

def trim (s : String) : String := String.ofList (trimChars s.toList)

end ChainLens.Text
