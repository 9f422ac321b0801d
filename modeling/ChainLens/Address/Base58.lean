import ChainLens.Hash.Basic

/-!
Base58: a byte string as a number in base 58, one leading digit `1` for every leading zero byte. The
checked form appends the first four bytes of the payload's double hash.
-/

namespace ChainLens.Base58

/-- The digits in order of value: figures and letters without those that look alike. -/
def alphabet : List Char := "123456789ABCDEFGHJKLMNPQRSTUVWXYZabcdefghijkmnopqrstuvwxyz".toList

/-- The digits of `n` in `base`, the least place first and none for zero. -/
def places (base : Nat) (hbase : 1 < base) : Nat → List Nat
  | 0 => []
  | n + 1 => (n + 1) % base :: places base hbase ((n + 1) / base)
termination_by n => n
decreasing_by exact Nat.div_lt_self (Nat.succ_pos n) hbase

def number (base : Nat) (digits : List Nat) : Nat := digits.foldl (fun n d => base * n + d) 0

def encodeChars (bytes : Bytes) : List Char :=
  let zeros := (bytes.takeWhile (· == 0)).length
  let digits := (places 58 (by decide) (number 256 (bytes.map UInt8.toNat))).reverse
  List.replicate zeros '1' ++ digits.map fun d => alphabet.getD d '1'

def decodeChars (text : List Char) : Option Bytes := do
  let digits ← text.mapM alphabet.idxOf?
  let zeros := (digits.takeWhile (· == 0)).length
  let bytes := (places 256 (by decide) (number 58 digits)).reverse.map UInt8.ofNat
  return List.replicate zeros 0 ++ bytes

def checksum (payload : Bytes) : Bytes := (Hash256.double payload).bytes.take 4

def encodeChecked (payload : Bytes) : List Char := encodeChars (payload ++ checksum payload)

def decodeChecked (text : List Char) : Option Bytes := do
  let bytes ← decodeChars text
  let payload := bytes.take (bytes.length - 4)
  if 4 ≤ bytes.length && bytes.drop (bytes.length - 4) == checksum payload then some payload
  else none

end ChainLens.Base58
