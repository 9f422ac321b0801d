import ChainLens.Script.Instruction

/-!
The standard forms of output scripts. Each form has its own test, and `Template.of` names the first
that succeeds.
-/

namespace ChainLens

inductive Template
  | publicKey
  | publicKeyHash
  | scriptHash
  | witnessKeyHash
  | witnessScriptHash
  | taproot
  | multisig
  | nullData
  | nonstandard
  deriving DecidableEq, Repr

namespace Script

def isPublicKeyHash (s : Script) : Bool :=
  s.length == 25 && s.take 3 == [0x76, 0xa9, 0x14] && s.drop 23 == [0x88, 0xac]

def isScriptHash (s : Script) : Bool :=
  s.length == 23 && s.take 2 == [0xa9, 0x14] && s.drop 22 == [0x87]

def isWitnessKeyHash (s : Script) : Bool := s.length == 22 && s.take 2 == [0x00, 0x14]

def isWitnessScriptHash (s : Script) : Bool := s.length == 34 && s.take 2 == [0x00, 0x20]

def isTaproot (s : Script) : Bool := s.length == 34 && s.take 2 == [0x51, 0x20]

/-- A key of 33 or 65 bytes and `CHECKSIG`; the key itself is not judged. -/
def isPublicKey (s : Script) : Bool :=
  (s.length == 67 && s.head? == some 0x41 && s.getLast? == some 0xac) ||
  (s.length == 35 && s.head? == some 0x21 && s.getLast? == some 0xac)

/-- Pushes counted from `keys` on and closed by an operation, then `CHECKMULTISIG` and the end. A
number operation has to name the number of pushes; any other operation closes the list without
naming it. The count is one byte, which begins again at zero after 255. -/
def closesMultisig (required : Nat) : UInt8 → List Instruction → Bool
  | keys, .push _ :: rest => closesMultisig required (keys + 1) rest
  | keys, .operation code :: rest =>
    (smallNumber? code).all (· == keys.toNat) && required ≤ keys.toNat && rest == [.operation 0xae]
  | _, _ => false

/-- `m <keys> n CHECKMULTISIG` with at least `m` keys; the keys themselves are not judged. -/
def isMultisig (s : Script) : Bool :=
  match instructions s with
  | .operation code :: rest =>
    match smallNumber? code with
    | some required => closesMultisig required 0 rest
    | none => false
  | _ => false

def isNullData (s : Script) : Bool := s.head? == some 0x6a

end Script

namespace Template

def of (s : Script) : Template :=
  if Script.isPublicKeyHash s then .publicKeyHash
  else if Script.isScriptHash s then .scriptHash
  else if Script.isWitnessKeyHash s then .witnessKeyHash
  else if Script.isWitnessScriptHash s then .witnessScriptHash
  else if Script.isTaproot s then .taproot
  else if Script.isPublicKey s then .publicKey
  else if Script.isMultisig s then .multisig
  else if Script.isNullData s then .nullData
  else .nonstandard

def name : Template → String
  | .publicKey => "pubkey"
  | .publicKeyHash => "pubkeyhash"
  | .scriptHash => "scripthash"
  | .witnessKeyHash => "witness_v0_keyhash"
  | .witnessScriptHash => "witness_v0_scripthash"
  | .taproot => "witness_v1_taproot"
  | .multisig => "multisig"
  | .nullData => "nulldata"
  | .nonstandard => "nonstandard"

def all : List Template :=
  [.publicKey, .publicKeyHash, .scriptHash, .witnessKeyHash, .witnessScriptHash,
   .taproot, .multisig,
   .nullData, .nonstandard]

def ofName? (name : String) : Option Template := all.find? fun t => t.name == name

def isAddressless : Template → Bool
  | .nullData | .nonstandard => true
  | _ => false

end Template
end ChainLens
