/-!
The shortest decimal text of a binary number of double precision: of the decimals that round to the
number, those with the fewest digits, and of these the nearest.
-/

namespace ChainLens.Shortest

/-- The leading bit of a mantissa, which the bits of a normal number leave out. -/
def leadingBit : Nat := 0x10000000000000

/-- The number `mantissa · 2^exponent` that the bits of a finite number denote, without its sign. -/
def unpack (bits : UInt64) : Nat × Int :=
  let fraction := bits.toNat % leadingBit
  let field := bits.toNat / leadingBit % 0x800
  if field = 0 then (fraction, -1074) else (leadingBit + fraction, (field : Int) - 1075)

def scaled (n : Nat) (a b : Int) : Nat × Nat :=
  (n * Nat.pow 2 a.toNat * Nat.pow 10 b.toNat, Nat.pow 2 (-a).toNat * Nat.pow 10 (-b).toNat)

/-- The whole number nearest to `p / q`, a tie going to the even one. -/
def nearest (p q : Nat) : Nat :=
  let floor := p / q
  let twice := 2 * (p % q)
  if twice < q then floor
  else if q < twice then floor + 1 else if floor % 2 = 0 then floor else floor + 1

/-- The decimal `digits · 10^place` rounds to `mantissa · 2^exponent`. The numbers that do reach
halfway to the neighbours, and include the ends when the mantissa is even. -/
def roundsTo (mantissa : Nat) (exponent : Int) (digits : Nat) (place : Int) : Bool :=
  let isPower := mantissa == leadingBit && exponent != -1074
  let low := if isPower then 4 * mantissa - 1 else 4 * mantissa - 2
  let high := 4 * mantissa + 2
  let (p, q) := scaled (4 * digits) (-exponent) place
  if mantissa % 2 = 0 then low * q ≤ p && p ≤ high * q else low * q < p && p < high * q

/-- The digits and the place of the last of them, trying one digit more at each step. The value lies
below `10^top`. -/
def search (mantissa : Nat) (exponent top : Int) : Nat → Nat → Nat × Int
  | _, 0 => (0, 0)
  | count, fuel + 1 =>
    let place := top - count
    let (p, q) := scaled mantissa exponent (-place)
    let digits := nearest p q
    if roundsTo mantissa exponent digits place then (digits, place)
    else search mantissa exponent top (count + 1) fuel

/-- The least power of ten above a positive number, counted up from the given one. -/
def above (mantissa : Nat) (exponent : Int) : Int → Nat → Int
  | top, 0 => top
  | top, fuel + 1 =>
    let (p, q) := scaled mantissa exponent (-top)
    if p < q then top else above mantissa exponent (top + 1) fuel

def trimZeros : Nat → Nat → Int → Nat × Int
  | 0, digits, place => (digits, place)
  | fuel + 1, digits, place =>
    if digits ≠ 0 ∧ digits % 10 = 0 then trimZeros fuel (digits / 10) (place + 1)
    else (digits, place)

/-- The shortest digits of a positive number and the place of the last. -/
def shortest (bits : UInt64) : Nat × Int :=
  let (mantissa, exponent) := unpack bits
  -- The decimal logarithm of two, rounded; `above` makes up for what the estimate lacks.
  let estimate := (exponent + (Nat.log2 mantissa : Int)) * 30103 / 100000 - 1
  let top := above mantissa exponent estimate 8
  let (digits, place) := search mantissa exponent top 1 20
  trimZeros 20 digits place

/-- Positional notation from 10^-5 up to below 10^16, with at least one digit after the point; else
one digit before the point and an exponent without a plus sign. -/
def layout (digits : Nat) (place : Int) : String :=
  let text := toString digits
  let point : Int := text.length + place
  if 0 ≤ place ∧ point ≤ 16 then text ++ String.ofList (List.replicate place.toNat '0') ++ ".0"
  else if 0 < point ∧ point ≤ 16 then
    let cs := text.toList
    String.ofList (cs.take point.toNat ++ '.' :: cs.drop point.toNat)
  else if -5 < point ∧ point ≤ 0 then
    "0." ++ String.ofList (List.replicate (-point).toNat '0') ++ text
  else
    let fraction := match text.toList with
      | first :: [] => [first]
      | first :: rest => first :: '.' :: rest
      | [] => []
    String.ofList fraction ++ "e" ++ toString (point - 1)

def render (x : Float) : String :=
  let bits := x.toBits
  let sign := if bits < 0x8000000000000000 then "" else "-"
  let magnitude := bits &&& 0x7fffffffffffffff
  if magnitude = 0 then sign ++ "0.0"
  else
    let (digits, place) := shortest magnitude
    sign ++ layout digits place

end ChainLens.Shortest
