import ChainLens.Proofs.Explorer.Identity
import ChainLens.Proofs.Explorer.PassedOver
import ChainLens.Proofs.Source.Candid
import ChainLens.Proofs.Web.Rehearsed

/-!
Nothing goes wrong unseen. When a call succeeds, every fetch it made arrived in full, or what it
returns shows the gap, or the network said that there is nothing at the address where there may be
nothing.
-/

namespace ChainLens

open Web

variable {ρ σ α : Type}

/-- A question, and what went over the network until it was answered. -/
structure Turn where
  question : Query
  exchanges : List Exchange

def Source.narrated (source : Source (StateT σ (Noted ρ))) :
    Source (StateT σ (StateT (List Turn) (StateM ρ))) where
  answer q := fun memory turns => do
    let ((reply, memory), exchanges) ← ((source.answer q).run memory).run []
    return ((reply, memory), turns ++ [⟨q, exchanges⟩])

/-- A turn is kept with each question, after those before it. -/
theorem Source.run_narrated_answer (source : Source (StateT σ (Noted ρ))) (q : Query) (memory : σ)
    (turns : List Turn) :
    ((source.narrated.answer q).run memory).run turns =
      (fun r => (r.1, turns ++ [⟨q, r.2⟩])) <$> ((source.answer q).run memory).run [] := by
  rw [map_eq_pure_bind]
  rfl

def forgetting (L ρ : Type) : MonadRelation (StateT L (StateM ρ)) (StateM ρ) where
  rel x y := ∀ log, Prod.fst <$> x.run log = y
  pure a log := rfl
  bind := by
    intro α β x y f g hx hf log
    rw [StateT.run_bind, map_bind, ← hx log, bind_map_left]
    congr 1
    funext r
    exact hf r.1 r.2

theorem Web.Wire.related_noted (wire : Wire (StateM ρ)) :
    wire.noted.Related (forgetting (List Exchange) ρ) wire where
  deliver request log := by
    simp [noted]
  readCookie log := by
    simp [noted]

theorem Source.Related.narrated {source : Source (StateT σ (Noted ρ))}
    {plain : Source (StateT σ (StateM ρ))}
    (h : source.Related ((forgetting (List Exchange) ρ).state σ) plain) :
    source.narrated.Related ((forgetting (List Turn) ρ).state σ) plain := by
  intro q memory turns
  rw [← h q memory [], Source.run_narrated_answer, Functor.map_map]

def Narrates (urls : Query → List String) (line : Lookup.Line) (turn : Turn) : Prop :=
  turn.question = line.1 ∧ Candid (urls line.1) line.1 line.2 turn.exchanges

/-- Each turn of a dialogue tells of a question, its reply and the exchanges made for it. -/
theorem Dialogue.run_narrated {urls : Query → List String} {source : Source (StateT σ (Noted ρ))}
    (h : source.Candid urls) (d : Dialogue Query.Reply α) (memory : σ) (turns : List Turn)
    (server : ρ) :
    ∃ a memory' more server' t,
      Id.run ((((d.run source.narrated.answer).run memory).run turns).run server) =
        (((a, memory'), turns ++ more), server') ∧
      d.Comes t a ∧ List.Forall₂ (Narrates urls) t more := by
  induction d generalizing memory turns server with
  | done a => exact ⟨a, memory, [], server, [], by rw [List.append_nil]; rfl, .done a, .nil⟩
  | ask q next ih =>
    obtain ⟨⟨reply, memory'⟩, es, server', hrun, hcandid⟩ := h q memory [] server
    obtain ⟨a, memory'', more, server'', t, hrest, hcomes, hturns⟩ :=
      ih reply memory' (turns ++ [⟨q, es⟩]) server'
    refine ⟨a, memory'', ⟨q, es⟩ :: more, server'', ⟨q, reply⟩ :: t, ?_, .ask q reply hcomes,
      .cons ⟨rfl, hcandid⟩ hturns⟩
    -- the record of a question begins empty, and is filed under the question
    have hask : Id.run ((((source.narrated.answer q).run memory).run turns).run server) =
        (((reply, memory'), turns ++ [⟨q, es⟩]), server') := by
      rw [Source.run_narrated_answer, StateT.run_map, Id.run_map, hrun, List.nil_append]
    simp only [Dialogue.run, StateT.run_bind, Id.run_bind, hask, hrest, List.append_assoc,
      List.singleton_append]

namespace Explorer

/-- Why a fetch that did not arrive in full leaves a call a success, and what shows of it in the
reports. -/
inductive Excused (reports : List TransactionReport) : Query → Exchange → Prop
  /-- It was for a transaction that an input spends from, and the input is not resolved. -/
  | previous {r : TransactionReport} {input : InputReport} (hr : r ∈ reports)
      (hinput : input ∈ r.inputs) (spends : input.coinbase = false)
      (unresolved : input.resolved = false) (e : Exchange) :
    Excused reports (.transactionBytes input.txid) e
  /-- The block of a transaction does not exist, and the transaction has no height. -/
  | vanished {r : TransactionReport} {hash : BlockHash} {e : Exchange} (hr : r ∈ reports)
      (hblock : r.blockHash = some hash) (hheight : r.confirmedHeight = none)
      (hmissing : e.IsMissing) :
    Excused reports (.heightOf hash) e
  /-- An index knows nothing about a script. -/
  | unknown {q : Query} {e : Exchange} (hq : q.MayBeUnknown) (hmissing : e.IsMissing) :
    Excused reports q e

/-- The turns of a call that succeeded, by the reports that it returns. -/
structure Disclosed (urls : Query → List String) (reports : List TransactionReport)
    (turns : List Turn) : Prop where
  fetched : ∀ turn ∈ turns, ∀ e ∈ turn.exchanges, e.IsFetch → ∃ url ∈ urls turn.question,
    e.IsFetchOf url
  shown : ∀ turn ∈ turns, ∀ e ∈ turn.exchanges, e.IsFetch → e.IsWhole ∨
    Excused reports turn.question e
  /-- A block without a height was asked for, and is not there. -/
  gone : ∀ r ∈ reports, ∀ hash, r.blockHash = some hash → r.confirmedHeight = none →
    ∃ turn ∈ turns, turn.question = .heightOf hash ∧ ∃ e ∈ turn.exchanges, e.IsFetch ∧ e.IsMissing

/-- What a call comes to, with a memory and a network that may be in any state. -/
def outcomeWith (wire : Wire (StateM ρ)) (setup : Setup) (network : Network) (call : Call)
    (memory : SourceMemory)
    (server : ρ) : Except Failure call.Result :=
  (Id.run ((((call.lookup network).runWith (setup.source wire)).run memory).run server)).1.1

def turnsOf (wire : Wire (StateM ρ)) (setup : Setup) (network : Network) (call : Call)
    (memory : SourceMemory)
    (server : ρ) : List Turn :=
  (Id.run (((((call.lookup network).runWith (setup.source wire.noted).narrated).run memory).run
    []).run server)).1.2

variable {urls : Query → List String} {reports : List TransactionReport} {t : List Lookup.Line}
    {turns : List Turn}

/-- Whatever is fetched for a question is fetched from the addresses given for it. -/
theorem fetched_of_candid {q : Query} {reply : q.Reply} {es : List Exchange} {urls : List String}
    (h : Candid urls q reply es) : ∀ e ∈ es, e.IsFetch → ∃ url ∈ urls, e.IsFetchOf url := by
  intro e he hfetch
  cases h with
  | sincere h =>
    cases h with
    | whole hfetched hwhole => exact hfetched e he
    | missing hfetched hknown hmissing => exact hfetched e he
    | outage hfetched => exact hfetched e he
  | unknown hq a hfetched hknown => exact hfetched e he
  | unfetched hreply hes => exact absurd hfetch (hes e he)

/-- When there is an answer, every fetch for it arrived in full or is excused. -/
theorem shown_of_answer {q : Query} {a : q.Result} {es : List Exchange} {urls : List String}
    (h : Candid urls q (.ok a) es) : ∀ e ∈ es, e.IsFetch → e.IsWhole ∨ Excused reports q e := by
  intro e he hfetch
  cases h with
  | sincere h =>
    cases h with
    | whole hfetched hwhole => exact .inl (hwhole e he)
  | unknown hq a hfetched hknown =>
    exact (hknown e he).imp_right fun hmissing => .unknown hq hmissing
  | unfetched hreply hes => exact absurd hfetch (hes e he)

/-- What was passed over is no secret. -/
theorem shown_of_passed_over {q : Query} {reply : q.Reply} {es : List Exchange} {urls : List String}
    (h : Candid urls q reply es) (hpassed : PassedOver reports ⟨q, reply⟩) :
    ∀ e ∈ es, e.IsFetch → e.IsWhole ∨ Excused reports q e := by
  intro e he hfetch
  cases hpassed with
  | previous hr hinput spends unresolved failure =>
    exact .inr (.previous hr hinput spends unresolved e)
  | vanished hr hblock hheight missing =>
    cases h with
    | sincere h =>
      cases h with
      | missing hfetched hknown hmissing =>
        exact (hknown e he).imp_right fun hgone => .vanished hr hblock hheight hgone
    | unfetched hreply hes => exact absurd hfetch (hes e he)
  | bytes hash ability =>
    cases h with
    | sincere h => cases h
    | unfetched hreply hes => exact absurd hfetch (hes e he)

/-- To a question about a height that found nothing, the network said so. -/
theorem missing_of_candid {hash : BlockHash} {m : Missing} {es : List Exchange} {urls : List String}
    (h : Candid urls (.heightOf hash) (.error (.notFound m)) es) :
    ∃ e ∈ es, e.IsFetch ∧ e.IsMissing := by
  cases h with
  | sincere h =>
    cases h with
    | missing hfetched hknown hmissing =>
      obtain ⟨e, he, hgone⟩ := hmissing
      obtain ⟨url, -, sent, authorization, -, hrequest⟩ := hfetched e he
      exact ⟨e, he, ⟨sent, authorization, hrequest⟩, hgone⟩
  | unfetched hreply hes => exact absurd rfl (hreply m)

theorem exists_mem_of_forall_two {α β : Type} {R : α → β → Prop} {l : List α} {m : List β}
    (h : List.Forall₂ R l m)
    {b : β} (hb : b ∈ m) : ∃ a ∈ l, R a b := by
  induction h with
  | nil => cases hb
  | cons hhead _ ih =>
    rcases List.mem_cons.mp hb with rfl | hb
    · exact ⟨_, List.mem_cons_self, hhead⟩
    · obtain ⟨a, ha, hr⟩ := ih hb
      exact ⟨a, List.mem_cons_of_mem _ ha, hr⟩

/-- Reports that tell of all failures in a transcript disclose all turns that it stands for. -/
theorem disclosed_of_tells (hturns : List.Forall₂ (Narrates urls) t turns) (h : Tells reports t) :
    Disclosed urls reports turns where
  fetched turn hturn := by
    obtain ⟨line, hline, hquestion, hcandid⟩ := exists_mem_of_forall_two hturns hturn
    rw [hquestion]
    exact fetched_of_candid hcandid
  shown turn hturn := by
    obtain ⟨⟨q, reply⟩, hline, hquestion, hcandid⟩ := exists_mem_of_forall_two hturns hturn
    rw [hquestion]
    cases reply with
    | ok a => exact shown_of_answer hcandid
    | error failure =>
      rcases h.lines _ hline with ⟨a, ha⟩ | hpassed
      · cases ha
      · exact shown_of_passed_over hcandid hpassed
  gone r hr hash hblock hheight := by
    obtain ⟨m, hline⟩ := h.heights r hr hash hblock hheight
    obtain ⟨turn, hturn, hquestion, hcandid⟩ := exists_mem_of_forall_two hturns.flip hline
    exact ⟨turn, hturn, hquestion, missing_of_candid hcandid⟩

/-- A call that succeeds has nothing to hide, whatever the network does and whatever source it is
made with. -/
theorem nothing_is_hidden (wire : Wire (StateM ρ)) (setup : Setup) (network : Network) (call : Call)
    (memory : SourceMemory) (server : ρ) {result : call.Result}
    (h : outcomeWith wire setup network call memory server = .ok result) :
    Disclosed setup.addresses (call.reports result)
    (turnsOf wire setup network call memory server) := by
  obtain ⟨a, memory', more, server', t, hrun, hcomes, hturns⟩ :=
    Dialogue.run_narrated (setup.candid wire) (call.lookup network).run memory [] server
  have hturnsOf : turnsOf wire setup network call memory server = more := by
    simp only [turnsOf, Lookup.runWith, hrun, List.nil_append]
  -- the record changes nothing about what the call comes to
  have hplain := (setup.related wire.related_noted).narrated.run (call.lookup network).run memory []
  have ha : a = .ok result := by
    rw [← h, outcomeWith, Lookup.runWith, ← hplain, StateT.run_map, Id.run_map, hrun]
  subst ha
  rw [hturnsOf]
  exact disclosed_of_tells hturns (tells_call network call hcomes)

def quietPart : NodePart := ⟨⟨⟨"http://[::1]"⟩, none⟩, .idle⟩

/-- A transaction that is not confirmed, and not the one it spends from. -/
def unconfirmed : Rehearsal := .serve
  [("http://[::1]/tx/" ++ Hash256.zero.display ++ ".bin", ouroboros.encode),
    ("http://[::1]/tx/" ++ Hash256.zero.display ++ ".json", plainBody "[null]")]

/-- A transaction that spends from one that the node does not have. -/
theorem nothing_is_hidden_unconfirmed :
    ∃ r, outcomeWith Rehearsal.wire (.node quietPart) .regtest (.transaction Hash256.zero)
        (Assembly.node quietPart).memory unconfirmed = .ok r ∧
      Disclosed quietPart.node.addresses [r] (turnsOf Rehearsal.wire (.node quietPart) .regtest
        (.transaction Hash256.zero) (Assembly.node quietPart).memory unconfirmed) := by
  have hok : (outcomeWith Rehearsal.wire (.node quietPart) .regtest (.transaction Hash256.zero)
      (Assembly.node quietPart).memory unconfirmed).isOk = true := by
    decide +kernel
  cases hresult : outcomeWith Rehearsal.wire (.node quietPart) .regtest (.transaction Hash256.zero)
      (Assembly.node quietPart).memory unconfirmed with
  | error failure =>
    rw [hresult] at hok
    cases hok
  | ok r =>
    exact ⟨r, rfl, nothing_is_hidden Rehearsal.wire (.node quietPart) .regtest _ _ _ hresult⟩

end Explorer
end ChainLens
