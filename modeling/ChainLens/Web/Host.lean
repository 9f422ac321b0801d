import ChainLens.Bytes.Hex
import ChainLens.Text.Decimal
import ChainLens.Text.Utf8
import ChainLens.Web.DomainName

/-!
Hosts of web addresses: names, IPv4 addresses in any of their spellings, and IPv6 addresses in
brackets. A host is kept in its normal form, the one that is sent.
-/

namespace ChainLens.Web

inductive UrlFault
  | relative
  | emptyHost
  | badSocket
  | badIpv4
  | badIpv6
  | badDomain
  | badHostCharacter
  deriving DecidableEq, Repr

def UrlFault.message : UrlFault → String
  | .relative => "relative URL without a base"
  | .emptyHost => "empty host"
  | .badSocket => "invalid port number"
  | .badIpv4 => "invalid IPv4 address"
  | .badIpv6 => "invalid IPv6 address"
  | .badDomain => "invalid international domain name"
  | .badHostCharacter => "invalid domain character"

namespace Host

open Text

def ofDigits? (base : Nat) (digits : List Char) : Option Nat := do
  let values ← digits.mapM Hex.value?
  if values.all (· < base) then some (values.foldl (fun n d => base * n + d) 0) else none

/-- A part of an IPv4 address: hexadecimal after `0x`, octal after another leading zero, else
decimal. -/
def ipv4Number? : List Char → Option Nat
  | [] => none
  | '0' :: 'x' :: digits | '0' :: 'X' :: digits => ofDigits? 16 digits
  | ['0'] => some 0
  | '0' :: digits => ofDigits? 8 digits
  | digits => ofDigits? 10 digits

/-- The parts of a dotted host, without the empty one after a final dot. -/
def dottedParts (host : List Char) : List (List Char) :=
  let parts := splitOn '.' host
  if 1 < parts.length ∧ parts.getLast? = some [] then parts.dropLast else parts

/-- A host whose last part is a number has to be an IPv4 address. -/
def endsInNumber (host : List Char) : Bool :=
  match (dottedParts host).getLast? with
  | some last => (!last.isEmpty && last.all Text.isDigit) || (ipv4Number? last).isSome
  | none => false

/-- The address of up to four parts; the last part fills all places that the others leave. -/
def ipv4? (host : List Char) : Option Nat := do
  let numbers ← (dottedParts host).mapM ipv4Number?
  guard (numbers.length ≤ 4)
  let last ← numbers.getLast?
  let firsts := numbers.dropLast
  let width := 8 * (4 - firsts.length)
  guard (last < 1 <<< width && firsts.all (· < 256))
  return (firsts.foldl (fun n part => 256 * n + part) 0) <<< width + last

def renderIpv4 (n : Nat) : String :=
  s!"{n / 16777216}.{n / 65536 % 256}.{n / 256 % 256}.{n % 256}"

/-- The part before the first `::` and the part after it. -/
def splitDouble? : List Char → Option (List Char × List Char)
  | ':' :: ':' :: rest => some ([], rest)
  | c :: rest => (splitDouble? rest).map fun (before, after) => (c :: before, after)
  | [] => none

def piece? (digits : List Char) : Option Nat :=
  if 1 ≤ digits.length ∧ digits.length ≤ 4 then ofDigits? 16 digits else none

def dottedPieces? (text : List Char) : Option (List Nat) := do
  let parts := splitOn '.' text
  guard (parts.all fun p => p == ['0'] || (p.all Text.isDigit && p.head? != some '0'))
  match ← parts.mapM Text.natOfChars? with
  | [a, b, c, d] =>
    guard ([a, b, c, d].all (· < 256))
    return [a * 256 + b, c * 256 + d]
  | _ => none

/-- The pieces of one side of an IPv6 address, of which the last may be dotted where that is
allowed. -/
def pieces? (dotted : Bool) (text : List Char) : Option (List Nat) :=
  if text.isEmpty then some []
  else
    let parts := splitOn ':' text
    match parts.getLast? with
    | some last =>
      if dotted && last.contains '.' then do
        return (← parts.dropLast.mapM piece?) ++ (← dottedPieces? last)
      else parts.mapM piece?
    | none => none

/-- The eight pieces of an IPv6 address; `::` stands for one or more zero pieces. -/
def ipv6? (text : List Char) : Option (List Nat) :=
  match splitDouble? text with
  | none => (pieces? true text).filter fun pieces => pieces.length == 8
  | some (before, after) => do
    let left ← pieces? false before
    let right ← pieces? true after
    guard (left.length + right.length ≤ 7)
    return left ++ List.replicate (8 - left.length - right.length) 0 ++ right

def hexText (n : Nat) : String := String.ofList (Nat.toDigits 16 n)

/-- The start and length of the first of the longest runs of zeros, counted from `place` on. -/
def longestZeros : Nat → List Nat → Nat × Nat
  | _, [] => (0, 0)
  | place, n :: rest =>
    let later := longestZeros (place + 1) rest
    let run := ((n :: rest).takeWhile (· == 0)).length
    if run ≥ later.2 ∧ 0 < run then (place, run) else later

/-- The shortest form: the longest run of at least two zero pieces becomes `::`. -/
def renderIpv6 (pieces : List Nat) : String :=
  let join (l : List Nat) : String := String.intercalate ":" (l.map hexText)
  let (start, run) := longestZeros 0 pieces
  if run < 2 then "[" ++ join pieces ++ "]"
  else "[" ++ join (pieces.take start) ++ "::" ++ join (pieces.drop (start + run)) ++ "]"

/-- Characters that a host which is kept as it is may not contain. -/
def isForbidden (c : Char) : Bool :=
  ['\x00', '\t', '\n', '\r', ' ', '#', '/', ':', '<', '>', '?', '@', '[', '\\', ']', '^',
    '|'].contains c

/-- Replaces each `%` that two hexadecimal digits follow by the byte they denote. -/
def percentDecode : Bytes → Bytes
  | 0x25 :: h :: l :: rest =>
    match Hex.value? (Char.ofNat h.toNat), Hex.value? (Char.ofNat l.toNat) with
    | some high, some low => UInt8.ofNat (16 * high + low) :: percentDecode rest
    | _, _ => 0x25 :: percentDecode (h :: l :: rest)
  | b :: rest => b :: percentDecode rest
  | [] => []
termination_by bytes => bytes.length

def parseBracketed (inner : List Char) : Except UrlFault String :=
  match inner.getLast? with
  | some ']' =>
    match ipv6? inner.dropLast with
    | some pieces => .ok (renderIpv6 pieces)
    | none => .error .badIpv6
  | _ => .error .badIpv6

def parse : List Char → Except UrlFault String
  | '[' :: inner => parseBracketed inner
  | text =>
    match Utf8.decode? (percentDecode (Utf8.encode (String.ofList text))) with
    | none => .error .badDomain
    | some decoded =>
      match DomainName.sent? decoded.toList with
      | none => .error .badDomain
      | some domain =>
        if domain.isEmpty then .error .emptyHost
        else if endsInNumber domain then
          match ipv4? domain with
          | some n => .ok (renderIpv4 n)
          | none => .error .badIpv4
        else .ok (String.ofList domain)

def parseOpaque : List Char → Except UrlFault String
  | '[' :: inner => parseBracketed inner
  | text => if text.any isForbidden then .error .badHostCharacter else .ok (String.ofList text)

end Host
end ChainLens.Web
