import ChainLens.Proofs.Web.Related
import ChainLens.Source.Assembly

/-!
Sources over two networks side by side. What relates the networks relates the answers of a node and
of an index to every question, with turnstiles and memories around them or without, and the results
of all that is asked of them.
-/

namespace ChainLens

open Web

variable {m n : Type → Type} [Monad m] [Monad n] {R : MonadRelation m n} {wire : Wire m}
    {other : Wire n} {σ τ α : Type}

/-- Two sources of which a relation holds answer by answer. -/
def Source.Related (R : MonadRelation m n) (source : Source m) (other : Source n) : Prop :=
  ∀ q, R.rel (source.answer q) (other.answer q)

namespace FullNode

/-- Over related networks a node answers and remembers alike. -/
theorem related_facts (h : wire.Related R other) (node : FullNode) (hash : BlockHash) :
    (R.state Memory).rel (node.facts wire hash) (node.facts other hash) := by
  refine (R.state Memory).bind (h.lift.fetch_json _ _ _) fun reply => ?_
  cases reply with
  | error failure => exact (R.state Memory).pure _
  | ok facts => exact (R.state Memory).bind (R.modify _) fun _ => (R.state Memory).pure _

theorem related (h : wire.Related R other) (node : FullNode) :
    (node.source wire).Related (R.state Memory) (node.source other) := by
  intro q
  cases q with
  | transactionBytes id => exact h.lift.fetch _ _
  | location id => exact h.lift.fetch_json _ _ _
  | transaction id =>
    refine (R.state Memory).bind (h.lift.fetch _ _) fun reply => ?_
    cases reply with
    | error failure => exact (R.state Memory).pure _
    | ok bytes =>
      exact (R.state Memory).bind (h.lift.fetch_json _ _ _) fun _ => (R.state Memory).pure _
  | blockBytes hash => exact h.lift.fetch _ _
  | blockFacts hash => exact related_facts h node hash
  | blockAt height =>
    exact (R.state Memory).bind (h.lift.fetch _ _) fun _ => (R.state Memory).pure _
  -- a height that is remembered is not asked for
  | heightOf hash =>
    refine (R.state Memory).bind R.get fun memory => ?_
    cases memory.heights.lookup hash with
    | some height => exact (R.state Memory).pure _
    | none =>
      exact (R.state Memory).bind (related_facts h node hash) fun _ => (R.state Memory).pure _
  | tip => exact h.lift.fetch_json _ _ _
  | broadcast hex =>
    simp only [source, answer]
    cases node.endpoint with
    | none => exact (R.state Memory).pure _
    | some endpoint =>
      refine (R.state Memory).bind R.get fun memory =>
        (R.state Memory).bind (R.modify _) fun _ => ?_
      exact (R.state Memory).bind (h.lift.call _ _ _ _) fun _ => (R.state Memory).pure _
  | _ => exact (R.state Memory).pure _

/-- A broadcast is one call, and the next one gets the number after it. -/
theorem run_broadcast {wire : Wire Id} {node : FullNode} {endpoint : Endpoint}
    (h : node.endpoint = some endpoint)
    (hex : String) (memory : Memory) :
    Id.run ((node.answer wire (.broadcast hex)).run memory) =
      (readBroadcast (call wire endpoint memory.nextCall "sendrawtransaction" [.text hex]),
        { memory with nextCall := memory.nextCall + 1 }) := by
  simp only [answer, h, call_lift]
  rfl

end FullNode

namespace AddressIndex

theorem related (h : wire.Related R other) (index : AddressIndex) :
    (index.source wire).Related R (index.source other) := by
  intro q
  cases q with
  | blockBytes hash => exact R.pure _
  | broadcast hex => exact R.pure _
  | holderCount => exact h.fetch_json _ _ _
  | holders offset limit => exact h.fetch_json _ _ _
  | _ => exact R.bind (h.fetch_json _ _ _) fun _ => R.pure _

end AddressIndex

namespace Source.Related

variable {first : Source m} {second : Source n}

/-- A turnstile before related sources leaves them related. -/
theorem limited (h : first.Related R second) :
    first.limited.Related (R.state (Turnstile Nat)) second.limited := by
  intro q
  refine (R.state _).bind R.get fun t => (R.state _).bind (R.modify _) fun _ => ?_
  exact (R.state _).bind (R.lift (h q)) fun _ => (R.state _).bind (R.modify _) fun _ =>
    (R.state _).pure _

theorem paired {first : Source (StateT σ (StateT τ m))} {second : Source (StateT σ (StateT τ n))}
    (h : first.Related ((R.state τ).state σ) second) :
    first.paired.Related (R.state (σ × τ)) second.paired :=
  fun q s => R.bind (h q s.1 s.2) fun _ => R.pure _

theorem zoom {first : Source (StateT σ m)} {second : Source (StateT σ n)}
    (h : first.Related (R.state σ) second)
    (get : τ → σ) (set : σ → τ → τ) :
    (first.zoom get set).Related (R.state τ) (second.zoom get set) :=
  fun q s => R.bind (h q (get s)) fun _ => R.pure _

theorem lift (h : first.Related R second) :
    (first.lift : Source (StateT σ m)).Related (R.state σ) second.lift :=
  fun q => R.lift (h q)

/-- Sources divided alike are related if their parts are. -/
theorem divided {first' : Source m} {second' : Source n} (h : first.Related R second)
    (h' : first'.Related R second') :
    (Source.divided first first').Related R (Source.divided second second') := by
  intro q
  simp only [Source.divided]
  cases q.concernsScripts with
  | true => exact h' q
  | false => exact h q

/-- What is asked of related sources comes to related results. -/
theorem run (h : first.Related R second) (d : Dialogue Query.Reply α) :
    R.rel (d.run first.answer) (d.run second.answer) := by
  induction d with
  | done a => exact R.pure a
  | ask q next ih => exact R.bind (h q) ih

end Source.Related

/-- The sources that can be made from a node and an index: each alone, with a turnstile or without,
or one for blocks and transactions and the other for scripts. -/
inductive Setup
  | openNode (node : FullNode)
  | node (part : NodePart)
  | index (part : IndexPart)
  | hybrid (chain scripts : Setup)

namespace Setup

def source (wire : Wire m) : Setup → Source (StateT SourceMemory m)
  | .openNode n =>
    (n.source wire).zoom SourceMemory.node fun seen memory => { memory with node := seen }
  | .node part => Assembly.nodeSource wire part
  | .index part => Assembly.indexSource wire part
  | .hybrid chain scripts => Source.divided (chain.source wire) (scripts.source wire)

/-- Over related networks every setup answers alike. -/
theorem related (h : wire.Related R other) (setup : Setup) :
    (setup.source wire).Related (R.state SourceMemory) (setup.source other) := by
  induction setup with
  | openNode n => exact (n.related h).zoom _ _
  | node part =>
    simp only [source, Assembly.nodeSource]
    exact (part.node.related h).limited.paired.zoom _ _
  | index part =>
    obtain ⟨index, gate⟩ := part
    cases gate with
    | none => exact (index.related h).lift
    | some gate =>
      have hlimited := (index.related h).limited
      exact hlimited.zoom SourceMemory.indexGate fun indexGate memory => { memory with indexGate }
  | hybrid _ _ hchain hscripts => exact hchain.divided hscripts

end Setup

end ChainLens
