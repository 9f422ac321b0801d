import ChainLens.Proofs.Explorer.Identity
import ChainLens.Proofs.Explorer.Overlap
import ChainLens.Proofs.Source.Related
import ChainLens.Proofs.Web.Rehearsed
import ChainLens.Source.FullNode
import Mathlib.Control.Monad.Basic

/-!
What a node remembers of the heights it has seen. A height is remembered under the name that the
answer gives to the block, which need not be the name that was asked for; where the two names have
one height, nobody can tell whether the node was asked before.
-/

namespace ChainLens

namespace FullNode

open Web

def afresh (table : Wire Id) (node : FullNode) : Source Id where
  answer q := (Id.run ((node.answer table q).run .empty)).1

theorem afresh_answer (table : Wire Id) (node : FullNode) (q : Query) :
    (node.afresh table).answer q = (Id.run ((node.answer table q).run .empty)).1 := rfl

/-- The block that is named in the facts about a block has the height that they give. -/
def Coherent (node : FullNode) (table : Wire Id) : Prop :=
  ∀ hash facts, (node.afresh table).answer (.blockFacts hash) = .ok facts →
    (node.afresh table).answer (.heightOf facts.hash) = .ok facts.height

/-- Every height remembered is the one that the node would give if it were asked first. -/
def Memory.Correct (table : Wire Id) (node : FullNode) (memory : Memory) : Prop :=
  ∀ hash height, memory.heights.lookup hash = some height →
    (node.afresh table).answer (.heightOf hash) = .ok height

variable {table : Wire Id} {node : FullNode} {memory : Memory}

def Memory.learn (memory : Memory) : Except Failure BlockFacts → Memory
  | .ok facts => { memory with heights := (facts.hash, facts.height) :: memory.heights }
  | .error _ => memory

def factsReply (table : Wire Id) (node : FullNode) (hash : BlockHash) : Except Failure BlockFacts :=
  Id.run (fetchJson table node.base s!"block/notxdetails/{hash.display}.json" blockShape)

/-- Facts are had from a page that reads as facts. -/
theorem facts_reply_eq_ok {hash : BlockHash} {facts : BlockFacts} :
    factsReply table node hash = .ok facts ↔
      ∃ body, fetch table node.base s!"block/notxdetails/{hash.display}.json" =
        (.ok body : Except Failure Bytes) ∧
        (Json.parse? (Utf8.decodeLossy body)).bind blockShape = some facts := by
  have hread (path : String) (body : Bytes) : readJson path blockShape body = .ok facts ↔
      (Json.parse? (Utf8.decodeLossy body)).bind blockShape = some facts := by
    cases hshape : (Json.parse? (Utf8.decodeLossy body)).bind blockShape with
    | none => simp [readJson, hshape, garbled, outage]
    | some found => simp [readJson, hshape]
  rw [factsReply]
  change (_ >>= readJson _ blockShape) = Except.ok facts ↔ _
  simp only [Lookup.bind_eq_ok, hread]

/-- Facts are told as they come, and the height is learned from them. -/
theorem run_facts (hash : BlockHash) (memory : Memory) :
    Id.run ((node.facts table hash).run memory) =
      (factsReply table node hash, memory.learn (factsReply table node hash)) := by
  rw [facts, fetch_json_lift, StateT.run_bind, StateT.run_lift, factsReply]
  generalize fetchJson table node.base s!"block/notxdetails/{hash.display}.json" blockShape = reply
  cases reply with
  | error failure => rfl
  | ok facts => rfl

theorem afresh_block_facts (hash : BlockHash) :
    (node.afresh table).answer (.blockFacts hash) = factsReply table node hash := by
  have hanswer : node.answer table (.blockFacts hash) = node.facts table hash := by rw [answer]
  rw [afresh_answer, hanswer, run_facts]

/-- A height that is remembered is not asked for. -/
theorem run_height_of (hash : BlockHash) (memory : Memory) :
    Id.run ((node.answer table (.heightOf hash)).run memory) = match memory.heights.lookup hash with
      | some height => (.ok height, memory)
      | none =>
        ((factsReply table node hash).map BlockFacts.height,
          memory.learn (factsReply table node hash)) := by
  cases hknown : memory.heights.lookup hash with
  | some height =>
    simp only [answer, StateT.run_bind, StateT.run_get, pure_bind, hknown,
      StateT.run_pure, Id.run_pure]
  | none =>
    simp only [answer, StateT.run_bind, StateT.run_get, pure_bind, hknown, Id.run_bind, run_facts,
      StateT.run_pure, Id.run_pure]

/-- Asked first, a node tells the height that its facts give. -/
theorem afresh_height_of (hash : BlockHash) :
    (node.afresh table).answer (.heightOf hash) =
      (factsReply table node hash).map BlockFacts.height := by
  have hnothing : Memory.empty.heights.lookup hash = none := rfl
  rw [afresh_answer, run_height_of, hnothing]

/-- Where facts are coherent, what is learned is correct. -/
theorem Memory.Correct.learn (hc : Coherent node table) (hm : memory.Correct table node)
    (hash : BlockHash) :
    (memory.learn (factsReply table node hash)).Correct table node := by
  cases hreply : factsReply table node hash with
  | error failure => exact hm
  | ok facts =>
    intro other height hother
    simp only [Memory.learn, List.lookup_cons] at hother
    by_cases heq : other = facts.hash
    · -- the new height is one that the node would give, for the names of a block have one height
      subst heq
      rw [beq_self_eq_true] at hother
      obtain rfl := Option.some.inj hother
      exact hc hash facts ((afresh_block_facts hash).trans hreply)
    · rw [beq_false_of_ne heq] at hother
      exact hm other height hother

theorem call_by_url (hurl : table.ByUrl) (endpoint : Endpoint) (id other : Nat) (method : String)
    (params : List Json) :
    call table endpoint id method params = call table endpoint other method params := by
  simp only [call, bind]
  cases endpoint.authority.credentials table.readCookie with
  | error refusal => rfl
  | ok credentials =>
    cases hheading : heading endpoint.base.text credentials with
    | error cause => simp only [hheading]
    | ok found =>
      have hsame := hurl (.call ⟨found.1, found.2, id, method, params⟩)
        (.call ⟨found.1, found.2, other, method, params⟩) rfl
      simp only [hheading, hsame]

/-- An answer that neither uses nor changes the memory. -/
theorem answer_unmindful {q : Query} {reply : q.Reply}
    (h : node.answer table q = StateT.lift (m := Id) reply)
    (memory : Memory) :
      Id.run ((node.answer table q).run memory) = ((node.afresh table).answer q, memory) := by
  have hrun (start : Memory) : Id.run ((node.answer table q).run start) = (reply, start) := by
    rw [h]
    rfl
  rw [afresh_answer, hrun, hrun]

/-- A node answers as if it were asked first, and remembers nothing that is not so. -/
theorem answer_correct (hurl : table.ByUrl) (hc : Coherent node table)
    (hm : memory.Correct table node) (q : Query) :
    ∃ memory' : Memory, Id.run ((node.answer table q).run memory) =
      ((node.afresh table).answer q, memory') ∧
      memory'.Correct table node := by
  cases q with
  | blockFacts hash =>
    rw [afresh_block_facts]
    exact ⟨_, run_facts hash memory, hm.learn hc hash⟩
  | heightOf hash =>
    rw [run_height_of]
    cases hknown : memory.heights.lookup hash with
    | some height =>
      -- the node is not asked, but would say the same
      rw [hm hash height hknown]
      exact ⟨memory, rfl, hm⟩
    | none =>
      rw [afresh_height_of]
      exact ⟨_, rfl, hm.learn hc hash⟩
  | broadcast hex =>
    cases hendpoint : node.endpoint with
    | none => exact ⟨memory, answer_unmindful (by simp only [answer, hendpoint]; rfl) memory, hm⟩
    | some endpoint =>
      -- the number of the call differs from that of a first one, and does not show
      refine ⟨{ memory with nextCall := memory.nextCall + 1 }, ?_, hm⟩
      rw [afresh_answer, run_broadcast hendpoint, run_broadcast hendpoint,
        call_by_url hurl endpoint Memory.empty.nextCall memory.nextCall]
  | transactionBytes id =>
    exact ⟨memory, answer_unmindful (q := .transactionBytes id) (fetch_lift _ _ _) memory, hm⟩
  | location id =>
    exact ⟨memory, answer_unmindful (q := .location id) (fetch_json_lift _ _ _ _) memory, hm⟩
  | transaction id =>
    cases hbytes : fetch table node.base s!"tx/{id.display}.bin" with
    | error failure =>
      have hlift : node.answer table (.transaction id) =
          StateT.lift (m := Id) (.error failure) := by
        rw [answer, fetch_lift, hbytes]
        rfl
      exact ⟨memory, answer_unmindful hlift memory, hm⟩
    | ok bytes =>
      have hlift : node.answer table (.transaction id) = StateT.lift (m := Id)
          ((fetchJson table node.base s!"tx/{id.display}.json" locationShape).map fun l =>
            (bytes, l)) := by
        rw [answer, fetch_lift, fetch_json_lift, hbytes]
        rfl
      exact ⟨memory, answer_unmindful hlift memory, hm⟩
  | blockBytes hash =>
    exact ⟨memory, answer_unmindful (q := .blockBytes hash) (fetch_lift _ _ _) memory, hm⟩
  | blockAt height => exact ⟨memory, answer_unmindful (by rw [answer, fetch_lift]; rfl) memory, hm⟩
  | tip => exact ⟨memory, answer_unmindful (q := .tip) (fetch_json_lift _ _ _ _) memory, hm⟩
  | _ => exact ⟨memory, answer_unmindful rfl memory, hm⟩

/-- Every answer of a dialogue is as it would be if the node were asked nothing else. -/
theorem run_correct {α : Type} (hurl : table.ByUrl) (hc : Coherent node table)
    (d : Dialogue Query.Reply α)
    (hm : memory.Correct table node) :
    (Id.run ((d.run (node.source table).answer).run memory)).1 =
      Id.run (d.run (node.afresh table).answer) := by
  induction d generalizing memory with
  | done a => rfl
  | ask q next ih =>
    obtain ⟨memory', hanswer, hm'⟩ := answer_correct hurl hc hm q
    simp only [Dialogue.run, source, StateT.run_bind, Id.run_bind, hanswer]
    exact ih _ hm'

/-- What arrived at a rehearsal before does not matter, nor what the node was asked. -/
theorem run_rehearsed {α : Type} (r : Rehearsal) (hc : Coherent node r.still)
    (d : Dialogue Query.Reply α) :
    (Id.run (((d.run (node.source Rehearsal.wire).answer).run .empty).run r)).1.1 =
      Id.run (d.run (node.afresh r.still).answer) := by
  have hempty : Memory.Correct r.still node .empty := by
    intro hash height hknown
    cases hknown
  -- the rehearsal gives way to the table that it plays, then the memory to none
  obtain ⟨r', hrun, -⟩ := (node.related (Rehearsal.related r.still)).run d .empty r rfl
  rw [hrun]
  exact run_correct r.still_by_url hc d hempty

end FullNode

namespace Explorer

open Web

/-- What calls come to when they are made one after the other to a node that has not been asked
anything. -/
def nodeSession (r : Rehearsal) (node : FullNode) (network : Network) (calls : List Call) :
    List Call.Outcome :=
  (Id.run
    ((((session network calls).run (node.source Rehearsal.wire).answer).run .empty).run r)).1.1

/-- What a call comes to when it is the first one to the node. -/
def nodeCall (r : Rehearsal) (node : FullNode) (network : Network) (call : Call) :
    Except Failure call.Result :=
  (Id.run ((((call.lookup network).runWith (node.source Rehearsal.wire)).run .empty).run r)).1.1

/-- Where blocks have one height under all their names, a call comes to what it comes to on a node
of its own, whatever has been called before. -/
theorem memory_unnoticed {r : Rehearsal} {node : FullNode} (h : node.Coherent r.still)
    (network : Network)
    (calls : List Call) :
    nodeSession r node network calls = calls.map fun call =>
      ⟨call, nodeCall r node network call⟩ := by
  have hcall (call : Call) : nodeCall r node network call =
      (call.lookup network).outcome (node.afresh r.still) :=
    FullNode.run_rehearsed r h _
  calc nodeSession r node network calls
      = Id.run ((session network calls).run (node.afresh r.still).answer) :=
        FullNode.run_rehearsed r h _
    _ = calls.map fun call => ⟨call, (call.lookup network).outcome (node.afresh r.still)⟩ :=
      run_session network _ calls
    _ = calls.map fun call => ⟨call, nodeCall r node network call⟩ := by simp only [hcall]

/-- A server answers with one of its pages, or has nothing at the address. -/
theorem reply_serve (pages : List (String × Bytes)) (request : Request) :
    (∃ page ∈ pages, (Rehearsal.serve pages).still.deliver request =
      Delivery.answered 200 (.whole page.2)) ∨
      (Rehearsal.serve pages).still.deliver request = Delivery.answered 404 (.whole []) := by
  induction pages with
  | nil => exact .inr rfl
  | cons page pages ih =>
    simp only [Rehearsal.still, Rehearsal.reply, Rehearsal.serve, List.map_cons, List.lookup_cons]
      at ih ⊢
    cases request.url == page.1 with
    | true => exact .inl ⟨page, List.mem_cons_self, rfl⟩
    | false =>
      rcases ih with ⟨other, hother, h⟩ | h
      · exact .inl ⟨other, List.mem_cons_of_mem _ hother, h⟩
      · exact .inr h

theorem mem_pages_of_fetch {pages : List (String × Bytes)} {base : BaseUrl} {path : String}
    {body : Bytes}
    (h : fetch (Rehearsal.serve pages).still base path = (.ok body : Except Failure Bytes)) :
    body ∈ pages.map Prod.snd := by
  simp only [fetch] at h
  cases hheading : heading (base.join path) none with
  | error cause =>
    rw [hheading] at h
    cases h
  | ok found =>
    rw [hheading] at h
    have hjudged : judgeFetch path (base.join path) found.1
        ((Rehearsal.serve pages).still.deliver (.get found.1 found.2)) = .ok body := h
    rcases reply_serve pages (.get found.1 found.2) with ⟨page, hpage, hdelivered⟩ | hdelivered
    · rw [hdelivered] at hjudged
      obtain rfl := Except.ok.inj hjudged
      exact List.mem_map_of_mem hpage
    · rw [hdelivered] at hjudged
      cases hjudged

def restNode : FullNode := ⟨⟨"http://[::1]"⟩, none⟩

/-- A transaction stands in a block, and the facts about the block of zeros are those about the same
block. -/
def naming (hash : BlockHash) : List (String × Bytes) :=
  [("http://[::1]/tx/" ++ Hash256.zero.display ++ ".bin", minted.encode),
    ("http://[::1]/tx/" ++ Hash256.zero.display ++ ".json",
      plainBody ("[\"" ++ hash.display ++ "\"]")),
    ("http://[::1]/block/notxdetails/" ++ Hash256.zero.display ++ ".json",
      plainBody ("[\"" ++ hash.display ++ "\",5,1,1,1]"))]

def zeroFacts : BlockFacts := ⟨Hash256.zero, 5, 1, 1, 1, none, []⟩

/-- One of the pages reads as facts about a block. -/
theorem facts_of_naming_zero : ((naming Hash256.zero).map Prod.snd).map
    (fun body => (Json.parse? (Utf8.decodeLossy body)).bind FullNode.blockShape) =
      [none, none, some zeroFacts] := by
  decide +kernel

theorem coherent_naming_zero : restNode.Coherent (Rehearsal.serve (naming Hash256.zero)).still := by
  have hzero : FullNode.factsReply (Rehearsal.serve (naming Hash256.zero)).still restNode
      Hash256.zero =
      .ok zeroFacts := by
    decide +kernel
  intro hash facts hfacts
  rw [FullNode.afresh_block_facts, FullNode.facts_reply_eq_ok] at hfacts
  obtain ⟨body, hbody, hread⟩ := hfacts
  -- whichever page it was, it reads as no facts or as these
  have hmem : some facts ∈ [none, none, some zeroFacts] := by
    rw [← facts_of_naming_zero, ← hread]
    exact List.mem_map_of_mem (mem_pages_of_fetch hbody)
  obtain rfl : facts = zeroFacts := by simpa using hmem
  rw [FullNode.afresh_height_of, show zeroFacts.hash = Hash256.zero from rfl, hzero]
  rfl

/-- With the facts under the right hash, an earlier call makes no difference. -/
theorem memory_unnoticed_zero :
    restNode.Coherent (Rehearsal.serve (naming Hash256.zero)).still ∧
      nodeSession (Rehearsal.serve (naming Hash256.zero)) restNode .regtest
        [.block (.hash Hash256.zero), .transaction Hash256.zero] =
        [⟨.block (.hash Hash256.zero),
            nodeCall (Rehearsal.serve (naming Hash256.zero)) restNode .regtest
              (.block (.hash Hash256.zero))⟩,
          ⟨.transaction Hash256.zero,
            nodeCall (Rehearsal.serve (naming Hash256.zero)) restNode .regtest
              (.transaction Hash256.zero)⟩] :=
  ⟨coherent_naming_zero, memory_unnoticed coherent_naming_zero .regtest _⟩

def statedHeight : Call.Outcome → Option Height
  | ⟨.transaction _, .ok r⟩ => r.confirmedHeight
  | _ => none

/-- After the block of zeros was asked for, the transaction has the height of the block it names. -/
theorem stated_height_of_session :
    (nodeSession (Rehearsal.serve (naming strangerId)) restNode .regtest
      [.block (.hash Hash256.zero), .transaction Hash256.zero])[1]?.map statedHeight =
        some (some 5) := by
  decide +kernel

/-- Asked for first, the transaction has no height. -/
theorem stated_height_of_call :
    statedHeight ⟨.transaction Hash256.zero,
      nodeCall (Rehearsal.serve (naming strangerId)) restNode .regtest
        (.transaction Hash256.zero)⟩ = none := by
  decide +kernel

/-- Facts about one block that name another are remembered under the other name, of which the node
itself knows nothing: the report of a transaction in that block has a height only after the first
block has been asked for. -/
theorem memory_shows :
    ¬ ∀ (r : Rehearsal) (node : FullNode) (network : Network) (calls : List Call),
    nodeSession r node network calls = calls.map fun call =>
      ⟨call, nodeCall r node network call⟩ := by
  intro h
  have hsession := h (Rehearsal.serve (naming strangerId)) restNode .regtest
    [.block (.hash Hash256.zero), .transaction Hash256.zero]
  have hstated := stated_height_of_session
  rw [hsession] at hstated
  have hnone : (some (some 5) : Option (Option Height)) = some none := by
    rw [← hstated, ← stated_height_of_call]
    rfl
  cases hnone

end Explorer
end ChainLens
