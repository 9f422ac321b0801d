import ChainLens.Text.Mark

/-!
The directions in which characters are written, and the order they have to keep in a name that holds
any that are written from right to left. There each label is written in one direction: it begins
with a letter of that direction, ends with such a letter or a number, and holds no letter of the
other direction.
-/

namespace ChainLens.Web.DomainName

open Text

inductive Direction
  | left
  | right
  /-- Numbers that are written with letters from right to left. -/
  | arabic
  /-- Numbers that are written with letters of either direction. -/
  | european
  /-- Marks go along with the character they belong to. -/
  | mark
  | neutral
  deriving DecidableEq, Repr

namespace Direction

def read? : List Char → Option Direction
  | ['l'] => some .left
  | ['r'] => some .right
  | ['a'] => some .arabic
  | ['e'] => some .european
  | ['o'] => some .neutral
  | _ => none

/-- The directions of Unicode, without letters that are written from left to right and marks that go
along. A span may also hold code points that stand for no character. -/
def table : SpanTable Direction := .read read? "
  0-2Fo 30-39e 3A-40o 5B-60o 7B-A9o AB-B1o B2-B3e B4o B6-B8o B9e BB-BFo D7o F7o 2B9-2BAo 2C2-2CFo
  2D2-2DFo 2E5-2EDo 2EF-2FFo 374-375o 37Eo 384-385o 387o 3F6o 58A-58Fo 5BEr 5C0r 5C3r 5C6r 5D0-5F4r
  600-605a 606-607o 608r 609-60Ao 60Br 60Co 60Dr 60E-60Fo 61B-64Ar 660-669a 66Ao 66B-66Ca 66D-66Fr
  671-6D5r 6DDa 6DEo 6E5-6E6r 6E9o 6EE-6EFr 6F0-6F9e 6FA-710r 712-72Fr 74D-7A5r 7B1-7EAr 7F4-7F5r
  7F6-7F9o 7FAr 7FE-815r 81Ar 824r 828r 830-858r 85E-88Fr 890-891a 8A0-8C9r 8E2a 9F2-9F3o 9FBo AF1o
  BF3-BFAo C78-C7Eo CBFl CC6l E3Fo F3A-F3Do 1390-1399o 1400o 1680o 169B-169Co 17DBo 17F0-180Ao 180Eo
  1940-1945o 19DE-19FFo 1FBDo 1FBF-1FC1o 1FCD-1FCFo 1FDD-1FDFo 1FED-1FEFo 1FFD-200Do 200Fr
  2010-206Fo 2070e 2074-2079e 207A-207Eo 2080-2089e 208A-208Eo 20A0-20C1o 2100-2101o 2103-2106o
  2108-2109o 2114o 2116-2118o 211E-2123o 2125o 2127o 2129o 212Eo 213A-213Bo 2140-2144o 214A-214Do
  2150-215Fo 2189-2335o 237B-2394o 2396-2487o 2488-249Be 24EA-26ABo 26AD-27FFo 2900-2BFFo 2CE5-2CEAo
  2CF9-2CFFo 2E00-3004o 3008-3020o 3030o 3036-3037o 303D-303Fo 309B-309Co 30A0o 30FBo 31C0-31EFo
  321D-321Eo 3250-325Fo 327C-327Eo 32B1-32BFo 32CC-32CFo 3377-337Ao 33DE-33DFo 33FFo 4DC0-4DFFo
  A490-A4C6o A60D-A60Fo A673o A67E-A67Fo A700-A721o A788o A828-A82Bo A838-A839o A874-A877o
  AB6A-AB6Bo FB1Dr FB1F-FB28r FB29o FB2A-FBC2r FBC3-FBD2o FBD3-FD3Dr FD3E-FD4Fo FD50-FD8Fr
  FD90-FD91o FD92-FDC7r FDC8-FDCFo FDF0-FDFCr FDFD-FDFFo FE10-FE19o FE30-FE6Bo FE70-FEFCr FEFF-FF0Fo
  FF10-FF19e FF1A-FF20o FF3B-FF40o FF5B-FF65o FFE0-FFFDo 10101o 10140-1018Co 10190-101A0o
  102E1-102FBe 10800-1091Br 1091Fo 10920-10A00r 10A10-10A35r 10A40-10AE4r 10AEB-10B35r 10B39-10B3Fo
  10B40-10D23r 10D30-10D49a 10D4A-10D65r 10D6Eo 10D6F-10D8Fr 10E60-10E7Ea 10E80-10EA9r 10EAD-10EC7r
  10ED0-10ED8o 10F00-10F45r 10F51-10F81r 10F86-10FF6r 11052-11065o 11660-1166Co 11A07-11A08l 11C3Fl
  11FD5-11FF1o 16FE2o 1BCA0-1CCD5o 1CCF0-1CCF9e 1CCFA-1CEF0o 1D173-1D17Ao 1D1E9-1D241o 1D245o
  1D300-1D356o 1D6C1o 1D6DBo 1D6FBo 1D715o 1D735o 1D74Fo 1D76Fo 1D789o 1D7A9o 1D7C3o 1D7CE-1D7FFe
  1E2FFo 1E800-1E8CFr 1E900-1E943r 1E94B-1EEBBr 1EEF0-1F0F5o 1F100-1F10Ae 1F10B-1F10Fo 1F12Fo
  1F16A-1F16Fo 1F1ADo 1F260-1FBEFo 1FBF0-1FBF9e 1FBFAo E0001-E007Fo"

def of (c : Char) : Direction :=
  match table.find? c with
  | some span => span.value
  | none => if isNonspacingMark c then .mark else .left

def isRightward (d : Direction) : Bool := d = .right || d = .arabic

end Direction

def holdsRight (label : List Char) : Bool := label.any fun c => (Direction.of c).isRightward

def endsWith (p : Direction → Bool) (directions : List Direction) : Bool :=
  (directions.reverse.find? fun d => d ≠ .mark).any p

def isOrdered (label : List Char) : Bool :=
  let directions := label.map Direction.of
  match directions with
  | [] => true
  | .left :: _ =>
    directions.all (fun d => !d.isRightward) &&
      endsWith (fun d => d = .left || d = .european) directions
  | .right :: _ =>
    directions.all (fun d => d ≠ .left) &&
        !(directions.contains .arabic && directions.contains .european) &&
      endsWith (fun d => d.isRightward || d = .european) directions
  | _ => false

end ChainLens.Web.DomainName
