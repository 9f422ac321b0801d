import ChainLens.Json.Shape
import ChainLens.Source.Query
import ChainLens.Web.Client

/-!
An address index as a source: transactions and headers as hexadecimal digits within JSON, heights
given with the transactions, and records by script. What the index has never seen about a script is
empty rather than missing. It serves no whole blocks and broadcasts nothing.
-/

namespace ChainLens

open Web

structure AddressIndex where
  base : BaseUrl
  deriving DecidableEq

namespace AddressIndex

structure Entry where
  hex : String
  height : Option Height
  block : Option BlockHash

def Entry.location (e : Entry) : Location := { block := e.block, height := e.height }

structure BlockEntry where
  hash : BlockHash
  height : Height
  header : String
  size : Nat
  strippedSize : Nat
  weight : Nat
  txids : List Txid

def entryShape (json : Json) : Option Entry := do
  let [hex, height, block] ←
    Shape.slots [["hex"], ["confirmedHeight", "confirmed_height"], ["blockhash"]] json | none
  return { hex := ← hex.required Shape.text
           height := ← height.optional Shape.word32
           block := ← block.optional Shape.hash }

def blockShape (json : Json) : Option BlockEntry := do
  let [hash, height, header, size, stripped, weight, txids] ←
    Shape.slots [["hash"], ["height"], ["header"], ["size"], ["strippedsize"], ["weight"],
      ["txids"]] json | none
  return { hash := ← hash.required Shape.hash
           height := ← height.required Shape.word32
           header := ← header.required Shape.text
           size := ← size.required (Shape.unsigned64)
           strippedSize := ← stripped.required (Shape.unsigned64)
           weight := ← weight.required (Shape.unsigned64)
           txids := ← txids.orElse (Shape.list Shape.hash) [] }

def tipShape (json : Json) : Option Int := do
  let [blocks] ← Shape.slots [["blocks"]] json | none
  blocks.required Shape.signed64

def countShape (json : Json) : Option UInt64 := do
  let [count] ← Shape.slots [["count"]] json | none
  count.required Shape.word64

def rankShape (json : Json) : Option (Option UInt64) := do
  let [rank] ← Shape.slots [["rank"]] json | none
  rank.optional Shape.word64

def unspentShape (json : Json) : Option Unspent := do
  let [txid, index, value] ← Shape.slots [["txid"], ["vout"], ["value"]] json | none
  return { txid := ← txid.required Shape.hash
           index := ← index.required Shape.word32
           value := ← value.required Shape.word64 }

def holdingShape (json : Json) : Option Holding := do
  let [script, value] ← Shape.slots [["script_pubkey"], ["value"]] json | none
  return { script := ← script.required Shape.hexBytes, value := ← value.required Shape.word64 }

def readHex (field text : String) : Except Failure Bytes :=
  match Hex.decode text with
  | .ok bytes => .ok bytes
  | .error fault => garbled (.hexField field fault)

def readTip (height : Int) : Except Failure Height :=
  if 0 ≤ height ∧ height < UInt32.size then .ok (UInt32.ofNat height.toNat)
  else garbled (.unsyncedTip height)

def readFacts (e : BlockEntry) : Except Failure BlockFacts := do
  let header ← readHex "header" e.header
  return { hash := e.hash, height := e.height, size := e.size, strippedSize := e.strippedSize,
           weight := e.weight, header := some header, txids := e.txids }

def orIfMissing {α : Type} (fallback : α) : Except Failure α → Except Failure α
  | .error (.notFound _) => .ok fallback
  | reply => reply

variable {m : Type → Type} [Monad m]

def answer (wire : Wire m) (index : AddressIndex) : (q : Query) → m q.Reply
  | .transactionBytes id => do
    return (← fetchJson wire index.base s!"tx/{id.display}" entryShape) >>= fun e =>
      readHex "hex" e.hex
  | .location id => do
    return (← fetchJson wire index.base s!"tx/{id.display}" entryShape).map Entry.location
  | .transaction id => do
    return (← fetchJson wire index.base s!"tx/{id.display}" entryShape) >>= fun e =>
      (readHex "hex" e.hex).map fun bytes => (bytes, e.location)
  | .blockBytes _ => return .error (.unsupported .rawBlocks)
  | .blockFacts hash => do
    return (← fetchJson wire index.base s!"block/{hash.display}" blockShape) >>= readFacts
  | .blockAt height => do
    return (← fetchJson wire index.base s!"block/{height.toNat}" blockShape).map BlockEntry.hash
  | .heightOf hash => do
    let facts := (← fetchJson wire index.base s!"block/{hash.display}" blockShape) >>= readFacts
    return facts.map BlockFacts.height
  | .tip => do
    return (← fetchJson wire index.base "status" tipShape) >>= readTip
  | .history script => do
    return orIfMissing []
      (← fetchJson wire index.base s!"addr_index/{Hex.encode script}" (Shape.list Shape.hash))
  | .unspent script => do
    return orIfMissing []
      (← fetchJson wire index.base s!"utxo/{Hex.encode script}" (Shape.list unspentShape))
  | .holderCount => fetchJson wire index.base "rich_list/count" countShape
  | .holders offset limit =>
    fetchJson wire index.base s!"rich_list/{offset.toNat}/{limit.toNat}" (Shape.list holdingShape)
  | .rank script => do
    return orIfMissing none
      (← fetchJson wire index.base s!"rich_list_addr_rank/{Hex.encode script}" rankShape)
  | .broadcast _ => return .error (.unsupported .broadcast)

def source (wire : Wire m) (index : AddressIndex) : Source m where
  answer := index.answer wire

end AddressIndex
end ChainLens
