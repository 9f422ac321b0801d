import ChainLens.Chain.Difficulty
import ChainLens.Explorer.Transactions

/-!
Reports of blocks. A source that serves whole blocks is taken at its bytes; of one that does not,
the header is checked and the rest believed. Either way the header has to hash to the name that was
asked for.
-/

namespace ChainLens.Explorer

/-- The hash of the block at a height. Above the tip there is none, and it is not asked for. -/
def hashAt (height : Height) : Lookup BlockHash := do
  let tip ← Lookup.ask .tip
  if tip < height then throw (.notFound (.aboveTip height tip))
  else Lookup.ask (.blockAt height)

/-- A block as reported, with its transactions if the source served it whole. -/
structure LoadedBlock where
  report : BlockReport
  transactions : Option (List Transaction)

def describeBlock (header : Header) (height : Height) (sizes : BlockSizes) (txids : List Txid) :
    BlockReport :=
  { hash := header.hash
    height
    header := header.encode
    version := header.version
    previous := header.previous
    merkleRoot := header.merkleRoot
    time := header.time
    bits := header.bits
    nonce := header.nonce
    difficulty := difficulty header.bits
    size := sizes.total
    strippedSize := sizes.stripped
    weight := sizes.weight
    txids }

def checkHash (header : Header) (expected : BlockHash) : Except Flaw Unit :=
  if header.hash = expected then .ok () else .error (.wrongBlock header.hash expected)

def fromBytes (hash : BlockHash) (facts : BlockFacts) (bytes : Bytes) :
    Except Flaw LoadedBlock := do
  let block ← Block.read bytes
  checkHash block.header hash
  let txids := block.transactions.map Transaction.txid
  return { report := describeBlock block.header facts.height block.sizes txids
           transactions := some block.transactions }

def fromFacts (hash : BlockHash) (facts : BlockFacts) : Except Flaw LoadedBlock := do
  let some bytes := facts.header | throw (.headerless hash)
  let header ← Header.read bytes
  checkHash header hash
  let sizes : BlockSizes :=
    { stripped := facts.strippedSize, total := facts.size, weight := facts.weight }
  return { report := describeBlock header facts.height sizes facts.txids, transactions := none }

/-- A block as its bytes tell it, or from a source that does not serve them the facts. -/
def loadFrom (hash : BlockHash) (bytes : Except Failure Bytes) (facts : BlockFacts) :
    Lookup LoadedBlock :=
  match bytes with
  | .ok bytes => Lookup.sound (fromBytes hash facts bytes)
  | .error (.unsupported _) => Lookup.sound (fromFacts hash facts)
  | .error failure => throw failure

/-- Loads the block with the given hash. Its bytes and the facts about it are both asked for, and
a failure of the facts comes first. -/
def load (hash : BlockHash) : Lookup LoadedBlock := do
  let bytes ← Lookup.attempt (.blockBytes hash)
  let facts ← Lookup.ask (.blockFacts hash)
  loadFrom hash bytes facts

def resolve : BlockRef → Lookup BlockHash
  | .height height => hashAt height
  | .hash hash => return hash

def blockByHash (hash : BlockHash) : Lookup BlockReport := do
  return (← load hash).report

def block (ref : BlockRef) : Lookup BlockReport := do
  blockByHash (← resolve ref)

/-- The report of a transaction in a block of which only the ids are known. -/
def listedTransaction (network : Network) (location : Location) (id : Txid) :
    Lookup TransactionReport := do
  let bytes ← Lookup.ask (.transactionBytes id)
  let record ← Lookup.sound (TxRecord.read bytes)
  report network record location

/-- The report of a block with those of its transactions, which fails if one of them does. -/
def fullBlock (network : Network) (ref : BlockRef) : Lookup FullBlockReport := do
  let loaded ← load (← resolve ref)
  let block := loaded.report
  let location : Location := { block := some block.hash, height := some block.height }
  let transactions ← match loaded.transactions with
    | some ts => ts.mapM fun t => report network (TxRecord.ofTransaction t) location
    | none => block.txids.mapM fun id => listedTransaction network location id
  return { block, transactions }

/-- The sum of two numbers, or the greatest number of 32 bits if that is less. -/
def addUpTo32 (a b : Nat) : Nat := min (a + b) (UInt32.size - 1)

def summaryAt (height : Nat) : Lookup BlockSummary := do
  let hash ← Lookup.ask (.blockAt (UInt32.ofNat height))
  return (← blockByHash hash).summary

/-- Summaries of up to `limit` blocks from a height on, ending at the tip. -/
def summaries (start : Height) (limit : UInt32) : Lookup (List BlockSummary) := do
  if limit = 0 then throw (.invalid .emptyPage)
  let tip ← Lookup.ask .tip
  if tip < start then return []
  let stop := min (addUpTo32 start.toNat limit.toNat) (addUpTo32 tip.toNat 1)
  (List.range' start.toNat (stop - start.toNat)).mapM summaryAt

end ChainLens.Explorer
