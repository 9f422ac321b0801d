import ChainLens.Source.Query
import ChainLens.Web.Rpc

/-!
A full node as a source: blocks and transactions as bytes, facts about them as JSON, and broadcasts
by JSON-RPC where an endpoint is known. A node keeps no records by script. Heights of blocks that
were seen are remembered.
-/

namespace ChainLens

open Web

structure FullNode where
  base : BaseUrl
  endpoint : Option Endpoint
  deriving DecidableEq

namespace FullNode

/-- What is remembered between questions. The program forgets all but the 10,000 heights used most
recently and asks the node for the others again; here no height is forgotten. -/
structure Memory where
  /-- Heights of blocks, the one learned last first. -/
  heights : List (BlockHash × Height)
  /-- The number that the next call carries. -/
  nextCall : Nat

def Memory.empty : Memory := { heights := [], nextCall := 0 }

def locationShape (json : Json) : Option Location := do
  let [block] ← Shape.slots [["blockhash"]] json | none
  return { block := ← block.optional Shape.hash, height := none }

def blockShape (json : Json) : Option BlockFacts := do
  let [hash, height, size, stripped, weight, txids] ←
    Shape.slots [["hash"], ["height"], ["size"], ["strippedsize"], ["weight"], ["tx"]] json | none
  return { hash := ← hash.required Shape.hash
           height := ← height.required Shape.word32
           size := ← size.required (Shape.unsigned64)
           strippedSize := ← stripped.required (Shape.unsigned64)
           weight := ← weight.required (Shape.unsigned64)
           header := none
           txids := ← txids.orElse (Shape.list Shape.hash) [] }

def tipShape (json : Json) : Option Height := do
  let [blocks] ← Shape.slots [["blocks"]] json | none
  blocks.required Shape.word32

def readBlockHash (bytes : Bytes) : Except Failure BlockHash :=
  match Decoder.hash256.decodeAll bytes with
  | .ok hash => .ok hash
  | .error error => garbled (.hashLength bytes.length error)

variable {m : Type → Type} [Monad m]

/-- The facts about a block, whose height is remembered under the hash that the node gives. -/
def facts (wire : Wire m) (node : FullNode) (hash : BlockHash) :
    StateT Memory m (Except Failure BlockFacts) := do
  let reply ← fetchJson wire.lift node.base s!"block/notxdetails/{hash.display}.json" blockShape
  if let .ok facts := reply then
    modify fun memory => { memory with heights := (facts.hash, facts.height) :: memory.heights }
  return reply

def answer (wire : Wire m) (node : FullNode) : (q : Query) → StateT Memory m q.Reply
  | .transactionBytes id => fetch wire.lift node.base s!"tx/{id.display}.bin"
  | .location id => fetchJson wire.lift node.base s!"tx/{id.display}.json" locationShape
  | .transaction id => do
    match ← fetch wire.lift node.base s!"tx/{id.display}.bin" with
    | .error failure => return .error failure
    | .ok bytes =>
      let location ← fetchJson wire.lift node.base s!"tx/{id.display}.json" locationShape
      return location.map fun l => (bytes, l)
  | .blockBytes hash => fetch wire.lift node.base s!"block/{hash.display}.bin"
  | .blockFacts hash => facts wire node hash
  | .blockAt height => do
    return (← fetch wire.lift node.base s!"blockhashbyheight/{height.toNat}.bin") >>= readBlockHash
  | .heightOf hash => do
    -- What is remembered stays right, for a block never changes its height.
    match (← get).heights.lookup hash with
    | some height => return .ok height
    | none => return (← facts wire node hash).map BlockFacts.height
  | .tip => fetchJson wire.lift node.base "chaininfo.json" tipShape
  | .history _ => return .error (.unsupported .history)
  | .unspent _ => return .error (.unsupported .unspent)
  | .holderCount => return .error (.unsupported .ranking)
  | .holders _ _ => return .error (.unsupported .ranking)
  | .rank _ => return .error (.unsupported .ranking)
  | .broadcast hex => do
    match node.endpoint with
    | none => return .error (.unsupported .broadcastEndpoint)
    | some endpoint =>
      let id := (← get).nextCall
      -- The number is used up even if the call then cannot be made.
      modify fun memory => { memory with nextCall := id + 1 }
      return readBroadcast (← call wire.lift endpoint id "sendrawtransaction" [.text hex])

def source (wire : Wire m) (node : FullNode) : Source (StateT Memory m) where
  answer := node.answer wire

end FullNode
end ChainLens
