import ChainLens.Chain.Header
import ChainLens.Chain.Transaction

/-!
Blocks: a header followed by a counted list of transactions.
-/

namespace ChainLens

structure Block where
  header : Header
  transactions : List Transaction
  deriving DecidableEq

structure BlockSizes where
  /-- The length without witnesses. -/
  stripped : Nat
  total : Nat
  weight : Nat
  deriving DecidableEq, Repr

namespace Block

def encode (b : Block) : Bytes :=
  b.header.encode ++ Encode.counted Transaction.encode b.transactions

def decoder : Decoder Block := do
  let header ← Header.decoder
  let transactions ← Decoder.counted Transaction.decoder
  return { header, transactions }

def decode (bytes : Bytes) : Except DecodeError Block := decoder.decodeAll bytes

def overhead (b : Block) : Nat := Header.size + CompactSize.width b.transactions.length

def totalSize (b : Block) : Nat := b.overhead + sumOver Transaction.totalSize b.transactions

def baseSize (b : Block) : Nat := b.overhead + sumOver Transaction.baseSize b.transactions

def weight (b : Block) : Nat := ChainLens.weight b.baseSize b.totalSize

def sizes (b : Block) : BlockSizes :=
  { stripped := (b.weight - b.totalSize) / 3, total := b.totalSize, weight := b.weight }

end Block
end ChainLens
