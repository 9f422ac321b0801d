import ChainLens.Address.Base58
import ChainLens.Address.Bech32
import ChainLens.Script.Template
import ChainLens.Text.Blank

/-!
Addresses as text and the scripts they stand for. A text is tried as a segwit address first; once it
is well formed as such, it is never tried as base58.
-/

namespace ChainLens

inductive Address
  | publicKeyHash (isTest : Bool) (hash : Bytes)
  | scriptHash (isTest : Bool) (hash : Bytes)
  | witness (zone : SegwitZone) (version : Nat) (program : Bytes)
  deriving DecidableEq

inductive AddressFault
  | unknownLabel
  | tooLong
  | base58
  | payloadLength
  | versionByte
  deriving DecidableEq, Repr

def AddressFault.message : AddressFault → String
  | .unknownLabel => "tried to parse an unknown hrp"
  | .tooLong => "legacy address base58 string"
  | .base58 => "base58 error"
  | .payloadLength => "legacy address base58 data"
  | .versionByte => "legacy address base58 prefix"

namespace Address

def keyHashByte (isTest : Bool) : UInt8 := if isTest then 0x6f else 0x00

def scriptHashByte (isTest : Bool) : UInt8 := if isTest then 0xc4 else 0x05

/-- The address of a payload: a version byte and twenty bytes. -/
def ofPayload : Bytes → Except AddressFault Address
  | version :: hash =>
    if hash.length ≠ 20 then .error .payloadLength
    else if version = 0x00 then .ok (.publicKeyHash false hash)
    else if version = 0x05 then .ok (.scriptHash false hash)
    else if version = 0x6f then .ok (.publicKeyHash true hash)
    else if version = 0xc4 then .ok (.scriptHash true hash)
    else .error .versionByte
  | [] => .error .payloadLength

def parse (text : String) : Except AddressFault Address :=
  match Bech32.decodeChars text.toList with
  | some parts =>
    match SegwitZone.ofLabel? parts.label with
    | some zone => .ok (.witness zone parts.version parts.program)
    | none => .error .unknownLabel
  | none =>
    if text.utf8ByteSize > 50 then .error .tooLong
    else match Base58.decodeChecked text.toList with
      | some payload => ofPayload payload
      | none => .error .base58

def validOn (network : Network) : Address → Bool
  | .publicKeyHash isTest _ | .scriptHash isTest _ => isTest == network.isTest
  | .witness zone _ _ => zone == network.zone

def versionOperation (version : Nat) : UInt8 :=
  if version = 0 then 0x00 else UInt8.ofNat (0x50 + version)

def script : Address → Script
  | .publicKeyHash _ hash => [0x76, 0xa9, 0x14] ++ hash ++ [0x88, 0xac]
  | .scriptHash _ hash => [0xa9, 0x14] ++ hash ++ [0x87]
  | .witness _ version program =>
    versionOperation version :: UInt8.ofNat program.length :: program

def render : Address → String
  | .publicKeyHash isTest hash => String.ofList (Base58.encodeChecked (keyHashByte isTest :: hash))
  | .scriptHash isTest hash => String.ofList (Base58.encodeChecked (scriptHashByte isTest :: hash))
  | .witness zone version program => String.ofList (Bech32.encodeChars zone.label version program)

def ofScript? (network : Network) (s : Script) : Option Address :=
  match Template.of s with
  | .publicKeyHash => some (.publicKeyHash network.isTest ((s.drop 3).take 20))
  | .scriptHash => some (.scriptHash network.isTest ((s.drop 2).take 20))
  | .witnessKeyHash | .witnessScriptHash => some (.witness network.zone 0 (s.drop 2))
  | .taproot => some (.witness network.zone 1 (s.drop 2))
  | _ => none

end Address

/-- The address text of a script on a network; forms without an address have none. -/
def Script.address? (network : Network) (s : Script) : Option String :=
  (Address.ofScript? network s).map Address.render

end ChainLens
