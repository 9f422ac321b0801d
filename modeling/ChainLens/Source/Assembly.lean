import ChainLens.Source.AddressIndex
import ChainLens.Source.Combine
import ChainLens.Source.FullNode

/-!
Sources from settings: a node behind a turnstile, an index with or without one, or both of them
together.
-/

namespace ChainLens

open Web

structure Settings where
  kind : SourceKind
  nodeUrl : Option String
  rpcUrl : Option String
  rpcUser : Option String
  rpcPassword : Option String
  rpcCookieFile : Option String
  indexUrl : Option String
  /-- How many questions a node answers at a time. -/
  nodeConcurrency : Nat
  /-- The same for an index; `none` sets no bound. -/
  indexConcurrency : Option Nat
  timeoutSeconds : Nat
  /-- How many requests go out each second; `none` sets no bound. -/
  requestsPerSecond : Option Nat
  deriving DecidableEq

def Settings.initial (kind : SourceKind) : Settings :=
  { kind, nodeUrl := none, rpcUrl := none, rpcUser := none, rpcPassword := none,
    rpcCookieFile := none, indexUrl := none, nodeConcurrency := 4, indexConcurrency := none,
    timeoutSeconds := 30, requestsPerSecond := none }

structure SourceMemory where
  node : FullNode.Memory
  nodeGate : Turnstile Nat
  indexGate : Turnstile Nat

structure NodePart where
  node : FullNode
  gate : Turnstile Nat

/-- An index, and the turnstile in front of it if there is one. -/
structure IndexPart where
  index : AddressIndex
  gate : Option (Turnstile Nat)

inductive Assembly
  | node (part : NodePart)
  | index (part : IndexPart)
  | hybrid (node : NodePart) (index : IndexPart)

namespace Settings

def base (s : Settings) (url : String) : Except Refusal BaseUrl := do
  let base ← BaseUrl.parse url
  if s.requestsPerSecond = some 0 then throw .noRate
  return base

def endpoint (s : Settings) (file : CookieFile) : Except Refusal (Option Endpoint) :=
  match s.rpcUrl with
  | none => .ok none
  | some url => do
    let authority ← Authority.ofOptions s.rpcUser s.rpcPassword s.rpcCookieFile
    return some (← Endpoint.build url authority file)

def nodePart (s : Settings) (file : CookieFile) : Except Refusal NodePart := do
  let some url := s.nodeUrl | throw (.noNodeUrl s.kind)
  let base ← s.base url
  let endpoint ← s.endpoint file
  let gate ← Turnstile.new s.nodeConcurrency
  return { node := { base, endpoint }, gate }

def indexPart (s : Settings) : Except Refusal IndexPart := do
  let some url := s.indexUrl | throw (.noIndexUrl s.kind)
  let base ← s.base url
  let gate ← match s.indexConcurrency with
    | some capacity => some <$> Turnstile.new capacity
    | none => pure none
  return { index := { base }, gate }

/-- The source that settings describe; credentials are read once to see that they can be. -/
def assemble (s : Settings) (file : CookieFile) : Except Refusal Assembly :=
  match s.kind with
  | .node => .node <$> s.nodePart file
  | .index => .index <$> s.indexPart
  | .hybrid => do
    let node ← s.nodePart file
    let index ← s.indexPart
    return .hybrid node index

end Settings

def Turnstile.idle : Turnstile Nat :=
  { capacity := 1, held := [], waiting := [], inFlight := 0, peak := 0, acquired := 0,
    released := 0 }

namespace Assembly

def memory : Assembly → SourceMemory
  | .node n => { node := .empty, nodeGate := n.gate, indexGate := .idle }
  | .index i => { node := .empty, nodeGate := .idle, indexGate := i.gate.getD .idle }
  | .hybrid n i => { node := .empty, nodeGate := n.gate, indexGate := i.gate.getD .idle }

variable {m : Type → Type} [Monad m]

def nodeSource (wire : Wire m) (part : NodePart) : Source (StateT SourceMemory m) :=
  (part.node.source wire).limited.paired.zoom (fun memory => (memory.nodeGate, memory.node))
    fun (nodeGate, seen) memory => { memory with nodeGate, node := seen }

def indexSource (wire : Wire m) (part : IndexPart) : Source (StateT SourceMemory m) :=
  let inner := part.index.source wire
  match part.gate with
  | none => inner.lift
  | some _ =>
    inner.limited.zoom SourceMemory.indexGate fun indexGate memory => { memory with indexGate }

def source (wire : Wire m) : Assembly → Source (StateT SourceMemory m)
  | .node n => nodeSource wire n
  | .index i => indexSource wire i
  | .hybrid n i => Source.divided (nodeSource wire n) (indexSource wire i)

end Assembly
end ChainLens
