/-!
The chains that addresses are written for.
-/

namespace ChainLens

inductive Network
  | bitcoin
  | testnet
  | testnet4
  | signet
  | regtest
  deriving DecidableEq, Repr

namespace Network

def name : Network → String
  | .bitcoin => "bitcoin"
  | .testnet => "testnet"
  | .testnet4 => "testnet4"
  | .signet => "signet"
  | .regtest => "regtest"

def all : List Network := [.bitcoin, .testnet, .testnet4, .signet, .regtest]

theorem mem_all (n : Network) : n ∈ all := by cases n <;> decide

def ofName? (name : String) : Option Network := all.find? fun n => n.name == name

def isTest (n : Network) : Bool := n != .bitcoin

end Network

/-- The human-readable parts of segwit addresses; three test chains share one. -/
inductive SegwitZone
  | main
  | test
  | regtest
  deriving DecidableEq, Repr

namespace SegwitZone

def label : SegwitZone → List Char
  | .main => ['b', 'c']
  | .test => ['t', 'b']
  | .regtest => ['b', 'c', 'r', 't']

def ofLabel? (label : List Char) : Option SegwitZone :=
  if label = main.label then some .main
  else if label = test.label then some .test
  else if label = regtest.label then some .regtest
  else none

end SegwitZone

def Network.zone : Network → SegwitZone
  | .bitcoin => .main
  | .testnet | .testnet4 | .signet => .test
  | .regtest => .regtest

end ChainLens
