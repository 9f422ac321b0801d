import ChainLens.Text.Mark

/-!
The two characters that cannot be seen and tell whether letters are joined. They may stand in a name
only where they make a difference: after a mark that removes a vowel, and the one that separates
also between two letters that would be joined.
-/

namespace ChainLens.Web.DomainName

open Text

inductive Joining
  /-- To the letter before it. -/
  | before
  /-- To the letter after it. -/
  | after
  | both
  | neither
  /-- It does not come between the letters around it. -/
  | transparent
  deriving DecidableEq, Repr

namespace Joining

def read? : List Char → Option Joining
  | ['r'] => some .before
  | ['l'] => some .after
  | ['d'] => some .both
  | ['t'] => some .transparent
  | _ => none

/-- The characters of Unicode that are joined, and the transparent ones other than marks. -/
def table : SpanTable Joining := .read read? "
  ADt 61Ct 620d 622-625r 626d 627r 628d 629r 62A-62Ed 62F-632r 633-63Fd 641-647d 648r 649-64Ad
  66E-66Fd 671-673r 675-677r 678-687d 688-699r 69A-6BFd 6C0r 6C1-6C2d 6C3-6CBr 6CCd 6CDr 6CEd 6CFr
  6D0-6D1d 6D2-6D3r 6D5r 6EE-6EFr 6FA-6FCd 6FFd 70Ft 710r 712-714d 715-719r 71A-71Dd 71Er 71F-727d
  728r 729d 72Ar 72Bd 72Cr 72D-72Ed 72Fr 74Dr 74E-758d 759-75Br 75C-76Ad 76B-76Cr 76D-770d 771r 772d
  773-774r 775-777d 778-779r 77A-77Fd 7CA-7EAd 840r 841-845d 846-847r 848d 849r 84A-853d 854r 855d
  856-858r 860d 862-865d 867r 868d 869-882r 886d 889-88Dd 88Er 88Fd 8A0-8A9d 8AA-8ACr 8AEr 8AF-8B0d
  8B1-8B2r 8B3-8B8d 8B9r 8BA-8C8d 1807d 1820-1878d 1887-18A8d 18AAd 200Bt 200E-200Ft 202A-202Et
  2060-2064t 206A-206Ft A840-A871d A872l FEFFt FFF9-FFFBt 10AC0-10AC4d 10AC5r 10AC7r 10AC9-10ACAr
  10ACDl 10ACE-10AD2r 10AD3-10AD6d 10AD7l 10AD8-10ADCd 10ADDr 10ADE-10AE0d 10AE1r 10AE4r
  10AEB-10AEEd 10AEFr 10B80d 10B81r 10B82d 10B83-10B85r 10B86-10B88d 10B89r 10B8A-10B8Bd 10B8Cr
  10B8Dd 10B8E-10B8Fr 10B90d 10B91r 10BA9-10BACr 10BAD-10BAEd 10D00l 10D01-10D21d 10D22r 10D23d
  10EC2r 10EC3-10EC4d 10EC6-10EC7d 10F30-10F32d 10F33r 10F34-10F44d 10F51-10F53d 10F54r 10F70-10F73d
  10F74-10F75r 10F76-10F81d 10FB0d 10FB2-10FB3d 10FB4-10FB6r 10FB8d 10FB9-10FBAr 10FBB-10FBCd 10FBDr
  10FBE-10FBFd 10FC1d 10FC2-10FC3r 10FC4d 10FC9r 10FCAd 10FCBl 13430-1343Ft 1BCA0-1BCA3t
  1D173-1D17At 1E900-1E943d 1E94Bt E0001-E007Ft"

def of (c : Char) : Joining :=
  match table.find? c with
  | some span => span.value
  | none => if isNonspacingMark c then .transparent else .neither

end Joining

def separator : Char := '\u200C'

def joiner : Char := '\u200D'

def vowelRemoval : Nat := 9

/-- The first character that is not transparent is joined in one of the given ways. -/
def beginsJoined (ways : List Joining) (text : List Char) : Bool :=
  ((text.map Joining.of).find? fun j => j ≠ .transparent).any ways.contains

/-- The character may stand between the text before it, which is given backwards, and the text after
it. -/
def isPlaced (before : List Char) (c : Char) (after : List Char) : Bool :=
  if c = separator ∨ c = joiner then
    match before with
    | [] => false
    | b :: _ =>
      combiningClass b = vowelRemoval ||
        (c = separator && beginsJoined [.after, .both] before &&
          beginsJoined [.before, .both] after)
  else true

/-- All characters of a text may stand where they stand, after the given one. -/
def joinersFit : List Char → List Char → Bool
  | _, [] => true
  | before, c :: after => isPlaced before c after && joinersFit (c :: before) after

end ChainLens.Web.DomainName
