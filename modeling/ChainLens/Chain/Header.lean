import ChainLens.Encoding.Decoder

/-!
Block headers: six fields in eighty bytes, whose double SHA-256 names the block.
-/

namespace ChainLens

structure Header where
  version : Int32
  previous : BlockHash
  merkleRoot : Hash256
  time : UInt32
  /-- The target in compact form. -/
  bits : UInt32
  nonce : UInt32
  deriving DecidableEq

namespace Header

def size : Nat := 80

def encode (h : Header) : Bytes :=
  Encode.signed32 h.version ++ h.previous.bytes ++ h.merkleRoot.bytes ++
  Encode.word32 h.time ++ Encode.word32 h.bits ++ Encode.word32 h.nonce

def decoder : Decoder Header := do
  let version ← Decoder.signed32
  let previous ← Decoder.hash256
  let merkleRoot ← Decoder.hash256
  let time ← Decoder.word32
  let bits ← Decoder.word32
  let nonce ← Decoder.word32
  return { version, previous, merkleRoot, time, bits, nonce }

def hash (h : Header) : BlockHash := Hash256.double h.encode

end Header
end ChainLens
