import ChainLens.Text.Composition
import ChainLens.Web.DomainName.Direction
import ChainLens.Web.DomainName.Joiner
import ChainLens.Web.DomainName.Reading
import ChainLens.Web.Punycode

/-!
Domain names beyond ASCII. A name is read character by character and composed, and its labels are
sent in an ASCII form, which begins with a sign of its own. A label may be given in that form too,
and then has to be what the label it stands for would be sent as.
-/

namespace ChainLens.Web.DomainName

open Text

/-- ASCII characters that no name may hold: those that cannot be seen, and those with a meaning in
an address. -/
def isForbidden (c : Char) : Bool :=
  c.toNat ≤ 0x20 || c.toNat = 0x7F || "%#/:<>?@[\\]^|".toList.contains c

def sign : List Char := "xn--".toList

def longestText : Nat := 1000

def longestCode : Nat := 2000

structure Label where
  text : List Char
  sent : List Char
  deriving DecidableEq, Repr

namespace Label

/-- A label beyond ASCII begins with no mark, has joiners only where they belong, and is not too
long. -/
def isAllowed (text : List Char) : Bool :=
  !text.head?.any isMark && joinersFit [] text && text.length ≤ longestText

def isPlain (text : List Char) : Bool := text.all isKept && Composition.compose text = text

def ofCode? (code : List Char) : Option Label := do
  guard (code.all Punycode.isBasic && code.getLast?.any (· != '-') && code.length ≤ longestCode)
  let text ← Punycode.decode? code
  guard (isPlain text && isAllowed text)
  return { text, sent := sign ++ code }

def read? (text : List Char) : Option Label :=
  if sign.isPrefixOf text then ofCode? (text.drop sign.length)
  else if text.all Punycode.isBasic then some { text, sent := text }
  else if isAllowed text then some { text, sent := sign ++ Punycode.encode text }
  else none

end Label

def labels? (text : List Char) : Option (List Label) := do
  let name := Composition.compose (← text.mapM understand).flatten
  guard !name.any isForbidden
  let labels ← (splitOn '.' name).mapM Label.read?
  guard (!labels.any (fun l => holdsRight l.text) || labels.all fun l => isOrdered l.text)
  return labels

def sent? (text : List Char) : Option (List Char) :=
  (labels? text).map fun labels => ['.'].intercalate (labels.map Label.sent)

end ChainLens.Web.DomainName
