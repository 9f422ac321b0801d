import ChainLens.Proofs.Source.Related
import ChainLens.Proofs.Web.Noted

/-!
What replies say about the fetches that were made for them. A source is candid if it gives an answer
only when all it fetched arrived in full, and calls something missing only when it was told so; all
it may make of a script that an index does not know is that nothing is there. Turnstiles and
memories change nothing about that.
-/

namespace ChainLens

open Web

variable {ρ σ τ α β : Type}

/-- With a memory that may hold anything, a computation adds exchanges to the record of which a
postcondition holds. -/
def Records (x : StateT σ (Noted ρ) α) (post : α → List Exchange → Prop) : Prop :=
  ∀ s, Leaves (x.run s) fun r es => post r.1 es

namespace Records

variable {x : StateT σ (Noted ρ) α} {post post' : α → List Exchange → Prop}

theorem mono (hx : Records x post) (h : ∀ a es, post a es → post' a es) : Records x post' :=
  fun s => (hx s).mono fun r es => h r.1 es

theorem pure {a : α} (h : post a []) : Records (pure a : StateT σ (Noted ρ) α) post :=
  fun _ => Leaves.pure h

theorem bind {f : α → StateT σ (Noted ρ) β} {next : β → List Exchange → Prop} (hx : Records x post)
    (hf : ∀ a es, post a es → Records (f a) fun b es' => next b (es ++ es')) :
    Records (x >>= f) next := by
  intro s
  rw [StateT.run_bind]
  exact (hx s).bind fun r es h => hf r.1 es h r.2

theorem lift {x : Noted ρ α} (hx : Leaves x post) :
    Records (StateT.lift x : StateT σ (Noted ρ) α) post := by
  intro s
  rw [StateT.run_lift]
  exact hx.bind_pure fun _ _ h => h

theorem bind_pure {f : α → β} {next : β → List Exchange → Prop} (hx : Records x post)
    (h : ∀ a es, post a es → next (f a) es) : Records (x >>= fun a => Pure.pure (f a)) next := by
  intro s
  rw [StateT.run_bind]
  exact (hx s).bind_pure fun r es ha => h r.1 es ha

theorem quiet_bind {f : α → StateT σ (Noted ρ) β} {next : β → List Exchange → Prop}
    (hx : Records x fun _ es => es = []) (hf : ∀ a, Records (f a) next) :
    Records (x >>= f) next := by
  refine hx.bind fun a es ha => ?_
  subst ha
  exact hf a

theorem get : Records (get : StateT σ (Noted ρ) σ) fun _ es => es = [] := fun _ => Leaves.pure rfl

theorem modify (f : σ → σ) : Records (modify f : StateT σ (Noted ρ) PUnit) fun _ es => es = [] :=
  fun _ => Leaves.pure rfl

end Records

def Query.MayBeUnknown : Query → Prop
  | .history _ | .unspent _ | .rank _ => True
  | _ => False

/-- A reply says no more than the fetches made for it. -/
inductive Candid (urls : List String) (q : Query) : q.Reply → List Exchange → Prop
  | sincere {reply : q.Reply} {es : List Exchange} (h : Sincere urls reply es) :
    Candid urls q reply es
  | unknown (hq : q.MayBeUnknown) (a : q.Result) {es : List Exchange}
      (hfetched : FetchedFrom urls es) (hknown : ∀ e ∈ es, e.IsWhole ∨ e.IsMissing) :
    Candid urls q (.ok a) es
  /-- Nothing was fetched, and nothing is called missing. -/
  | unfetched {reply : q.Reply} {es : List Exchange} (hreply : ∀ m, reply ≠ .error (.notFound m))
      (hes : ∀ e ∈ es, ¬ e.IsFetch) :
    Candid urls q reply es

/-- A source all of whose replies are candid, the fetches for a question going to the addresses
given for it. -/
def Source.Candid (urls : Query → List String) (source : Source (StateT σ (Noted ρ))) : Prop :=
  ∀ q, Records (source.answer q) (ChainLens.Candid (urls q) q)

theorem candid_unsupported {urls : List String} {q : Query} (ability : Ability) :
    Candid urls q (.error (.unsupported ability)) [] :=
  .unfetched (fun m h => by cases h) fun e he => absurd he List.not_mem_nil

namespace FullNode

def paths : Query → List String
  | .transactionBytes id => [s!"tx/{id.display}.bin"]
  | .location id => [s!"tx/{id.display}.json"]
  | .transaction id => [s!"tx/{id.display}.bin", s!"tx/{id.display}.json"]
  | .blockBytes hash => [s!"block/{hash.display}.bin"]
  | .blockFacts hash => [s!"block/notxdetails/{hash.display}.json"]
  | .heightOf hash => [s!"block/notxdetails/{hash.display}.json"]
  | .blockAt height => [s!"blockhashbyheight/{height.toNat}.bin"]
  | .tip => ["chaininfo.json"]
  | _ => []

def addresses (node : FullNode) (q : Query) : List String := (paths q).map node.base.join

theorem only_outages_read_block_hash (bytes : Bytes) : OnlyOutages (readBlockHash bytes) := by
  simp only [readBlockHash]
  cases Decoder.hash256.decodeAll bytes with
  | ok hash => exact only_outages_ok hash
  | error error => exact only_outages_outage _

/-- A fetch is noted as one exchange with the address it goes to. -/
theorem records_fetch (wire : Wire (StateM ρ)) (base : BaseUrl) (path : String) :
    Records (fetch wire.noted.lift base path : StateT σ (Noted ρ) _)
    (Sincere [base.join path]) := by
  rw [fetch_lift]
  exact .lift (leaves_fetch wire base path)

theorem records_fetch_json (wire : Wire (StateM ρ)) (base : BaseUrl) (path : String)
    (shape : Json → Option α) :
    Records (fetchJson wire.noted.lift base path shape : StateT σ (Noted ρ) _)
    (Sincere [base.join path]) := by
  rw [fetch_json_lift]
  exact .lift (leaves_fetch_json wire base path shape)

/-- The facts about a block are fetched from one page. -/
theorem records_facts (wire : Wire (StateM ρ)) (node : FullNode) (hash : BlockHash) :
    Records (node.facts wire.noted hash) (Sincere (node.addresses (.blockFacts hash))) := by
  refine (records_fetch_json wire _ _ _).bind fun reply es h => ?_
  have hreply : Records (Pure.pure reply : StateT Memory (Noted ρ) _)
      fun reply es' => Sincere (node.addresses (.blockFacts hash)) reply (es ++ es') := by
    refine .pure ?_
    rw [List.append_nil]
    exact h
  cases reply with
  | error failure => exact hreply
  | ok facts => exact (Records.modify _).quiet_bind fun _ => hreply

/-- A node says no more than the fetches made for a question. -/
theorem candid_source (wire : Wire (StateM ρ)) (node : FullNode) :
    (node.source wire.noted).Candid node.addresses := by
  intro q
  cases q with
  | transactionBytes id => exact (records_fetch wire _ _).mono fun _ _ h => .sincere h
  | location id => exact (records_fetch_json wire _ _ _).mono fun _ _ h => .sincere h
  | transaction id =>
    refine (records_fetch wire _ _).bind fun reply es h => ?_
    cases reply with
    | error failure =>
      refine .pure (.sincere ?_)
      rw [List.append_nil]
      exact h.failed _
    | ok bytes =>
      -- the location is asked for only after the bytes have arrived in full
      cases h with
      | whole hfetched hwhole =>
        exact (records_fetch_json wire _ _ _).bind_pure fun _ _ h =>
          .sincere ((h.after hfetched hwhole).map _)
  | blockBytes hash => exact (records_fetch wire _ _).mono fun _ _ h => .sincere h
  | blockFacts hash => exact (records_facts wire node hash).mono fun _ _ h => .sincere h
  | blockAt height =>
    exact (records_fetch wire _ _).bind_pure fun _ _ h =>
      .sincere (h.bind only_outages_read_block_hash)
  | heightOf hash =>
    refine Records.get.quiet_bind fun memory => ?_
    cases memory.heights.lookup hash with
    -- what is remembered takes no fetch
    | some height =>
      exact .pure (.unfetched (fun m h => nomatch h) fun e he => absurd he List.not_mem_nil)
    | none =>
      exact (records_facts wire node hash).bind_pure fun _ _ h => .sincere (h.map BlockFacts.height)
  | tip => exact (records_fetch_json wire _ _ _).mono fun _ _ h => .sincere h
  | broadcast hex =>
    simp only [source, answer]
    cases node.endpoint with
    | none => exact .pure (candid_unsupported _)
    | some endpoint =>
      refine Records.get.quiet_bind fun memory => (Records.modify _).quiet_bind fun _ => ?_
      rw [call_lift]
      exact (Records.lift (leaves_call wire _ _ _ _)).bind_pure fun _ _ h =>
        .unfetched (never_missing_read_broadcast h.1) h.2
  | _ => exact .pure (candid_unsupported _)

end FullNode

namespace AddressIndex

def paths : Query → List String
  | .transactionBytes id => [s!"tx/{id.display}"]
  | .location id => [s!"tx/{id.display}"]
  | .transaction id => [s!"tx/{id.display}"]
  | .blockFacts hash => [s!"block/{hash.display}"]
  | .heightOf hash => [s!"block/{hash.display}"]
  | .blockAt height => [s!"block/{height.toNat}"]
  | .tip => ["status"]
  | .history script => [s!"addr_index/{Hex.encode script}"]
  | .unspent script => [s!"utxo/{Hex.encode script}"]
  | .holderCount => ["rich_list/count"]
  | .holders offset limit => [s!"rich_list/{offset.toNat}/{limit.toNat}"]
  | .rank script => [s!"rich_list_addr_rank/{Hex.encode script}"]
  | _ => []

def addresses (index : AddressIndex) (q : Query) : List String := (paths q).map index.base.join

theorem only_outages_read_hex (field text : String) : OnlyOutages (readHex field text) := by
  simp only [readHex]
  cases Hex.decode text with
  | ok bytes => exact only_outages_ok bytes
  | error fault => exact only_outages_outage _

theorem only_outages_read_tip (height : Int) : OnlyOutages (readTip height) := by
  simp only [readTip]
  split
  · exact only_outages_ok _
  · exact only_outages_outage _

theorem only_outages_read_facts (e : BlockEntry) : OnlyOutages (readFacts e) :=
  (only_outages_read_hex "header" e.header).bind fun _ => only_outages_ok _

/-- What an index does not know about a script may stand for nothing. -/
theorem candid_or_if_missing {urls : List String} {q : Query} (hq : q.MayBeUnknown)
    (fallback : q.Result)
    {reply : q.Reply} {es : List Exchange} (h : Sincere urls reply es) :
    Candid urls q (orIfMissing fallback reply) es := by
  cases h with
  | whole hfetched hwhole => exact .sincere (.whole hfetched hwhole)
  | missing hfetched hknown hmissing => exact .unknown hq fallback hfetched hknown
  | outage hfetched => exact .sincere (.outage hfetched)

/-- An index says no more than the fetches made for a question. -/
theorem candid_answer (wire : Wire (StateM ρ)) (index : AddressIndex) (q : Query) :
    Leaves (index.answer wire.noted q) (Candid (index.addresses q) q) := by
  cases q with
  | transactionBytes id =>
    exact (leaves_fetch_json wire _ _ _).bind_pure fun _ _ h =>
      .sincere (h.bind fun e => only_outages_read_hex _ _)
  | location id => exact (leaves_fetch_json wire _ _ _).bind_pure fun _ _ h => .sincere (h.map _)
  | transaction id =>
    exact (leaves_fetch_json wire _ _ _).bind_pure fun _ _ h =>
      .sincere (h.bind fun e => (only_outages_read_hex _ _).map _)
  | blockFacts hash =>
    exact (leaves_fetch_json wire _ _ _).bind_pure fun _ _ h =>
      .sincere (h.bind only_outages_read_facts)
  | blockAt height => exact (leaves_fetch_json wire _ _ _).bind_pure fun _ _ h => .sincere (h.map _)
  | heightOf hash =>
    exact (leaves_fetch_json wire _ _ _).bind_pure fun _ _ h =>
      .sincere ((h.bind only_outages_read_facts).map _)
  | tip =>
    exact (leaves_fetch_json wire _ _ _).bind_pure fun _ _ h =>
      .sincere (h.bind only_outages_read_tip)
  -- here an entry that does not exist stands for nothing known
  | history script =>
    exact (leaves_fetch_json wire _ _ _).bind_pure fun _ _ h =>
      candid_or_if_missing (q := .history script) trivial _ h
  | unspent script =>
    exact (leaves_fetch_json wire _ _ _).bind_pure fun _ _ h =>
      candid_or_if_missing (q := .unspent script) trivial _ h
  | rank script =>
    exact (leaves_fetch_json wire _ _ _).bind_pure fun _ _ h =>
      candid_or_if_missing (q := .rank script) trivial _ h
  | holderCount => exact (leaves_fetch_json wire _ _ _).mono fun _ _ h => .sincere h
  | holders offset limit => exact (leaves_fetch_json wire _ _ _).mono fun _ _ h => .sincere h
  | _ => exact .pure (candid_unsupported _)

end AddressIndex

namespace Source

variable {urls : Query → List String}

theorem candid_lift {source : Source (Noted ρ)}
    (h : ∀ q, Leaves (source.answer q) (ChainLens.Candid (urls q) q)) :
    (source.lift : Source (StateT σ (Noted ρ))).Candid urls := fun q => .lift (h q)

theorem run_limited {m : Type → Type} [Monad m] [LawfulMonad m] (source : Source m) (q : Query)
    (t : Turnstile Nat) :
    (source.limited.answer q).run t =
      (fun reply => (reply, (t.acquire t.acquired).release t.acquired)) <$> source.answer q := by
  simp [limited]

theorem candid_limited {source : Source (Noted ρ)}
    (h : ∀ q, Leaves (source.answer q) (ChainLens.Candid (urls q) q)) :
    source.limited.Candid urls := by
  intro q t
  rw [run_limited]
  exact (h q).map fun _ _ h => h

/-- A turnstile does not change what is said. -/
theorem Candid.limited {source : Source (StateT σ (Noted ρ))} (h : source.Candid urls) :
    source.limited.paired.Candid urls := by
  rintro q ⟨t, s⟩
  have hlimited : Leaves (((source.limited.answer q).run t).run s) fun r es =>
      ChainLens.Candid (urls q) q r.1.1 es := by
    rw [run_limited, StateT.run_map]
    exact (h q s).map fun _ _ h => h
  refine Leaves.bind_pure (f := fun r => (r.1.1, (r.1.2, r.2))) hlimited ?_
  exact fun _ _ h => h

theorem Candid.zoom {source : Source (StateT σ (Noted ρ))} (h : source.Candid urls) (get : τ → σ)
    (set : σ → τ → τ) :
    (source.zoom get set).Candid urls := by
  intro q memory
  refine Leaves.bind_pure (f := fun r => (r.1, set r.2 memory)) (h q (get memory)) ?_
  exact fun _ _ h => h

theorem Candid.divided {more : Query → List String} {node index : Source (StateT σ (Noted ρ))}
    (hnode : node.Candid urls)
    (hindex : index.Candid more) :
    (Source.divided node index).Candid fun q => if q.concernsScripts then more q else urls q := by
  intro q
  simp only [Source.divided]
  cases q.concernsScripts with
  | true => exact hindex q
  | false => exact hnode q

end Source

def Setup.addresses : Setup → Query → List String
  | .openNode n, q => n.addresses q
  | .node part, q => part.node.addresses q
  | .index part, q => part.index.addresses q
  | .hybrid chain scripts, q => if q.concernsScripts then scripts.addresses q else chain.addresses q

/-- All sources that can be set up are candid. -/
theorem Setup.candid (wire : Wire (StateM ρ)) (setup : Setup) :
    (setup.source wire.noted).Candid setup.addresses := by
  induction setup with
  | openNode n => exact (n.candid_source wire).zoom _ _
  | node part =>
    simp only [source, Assembly.nodeSource]
    exact (part.node.candid_source wire).limited.zoom _ _
  | index part =>
    obtain ⟨index, gate⟩ := part
    cases gate with
    | none =>
      have hlifted : ((index.source wire.noted).lift : Source
          (StateT SourceMemory (Noted ρ))).Candid index.addresses :=
        Source.candid_lift (index.candid_answer wire)
      exact hlifted
    | some gate =>
      have hlimited : (index.source wire.noted).limited.Candid index.addresses :=
        Source.candid_limited (index.candid_answer wire)
      exact hlimited.zoom SourceMemory.indexGate fun indexGate memory => { memory with indexGate }
  | hybrid _ _ hchain hscripts => exact hchain.divided hscripts

end ChainLens
