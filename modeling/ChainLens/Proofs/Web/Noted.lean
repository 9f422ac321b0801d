import ChainLens.Proofs.Web.Related

/-!
A record of what goes over the network: every request with what came back for it, in order. Behind
it may be any network, also one that changes its answers.
-/

namespace ChainLens.Web

/-- A request and what came back for it. -/
structure Exchange where
  request : Request
  delivery : Delivery

namespace Exchange

def IsFetch (e : Exchange) : Prop := ∃ sent authorization, e.request = .get sent authorization

def IsFetchOf (e : Exchange) (url : String) : Prop :=
  ∃ sent authorization, heading url none = .ok (sent, authorization) ∧
    e.request = .get sent authorization

def IsWhole (e : Exchange) : Prop :=
  ∃ status bytes, isSuccess status = true ∧ e.delivery = .answered status (.whole bytes)

def IsMissing (e : Exchange) : Prop := ∃ body, e.delivery = .answered 404 body

end Exchange

def Wire.noted {m : Type → Type} [Monad m] (wire : Wire m) : Wire (StateT (List Exchange) m) where
  deliver request := do
    let delivery ← wire.deliver request
    modify fun log => log ++ [⟨request, delivery⟩]
    return delivery
  readCookie := StateT.lift wire.readCookie

variable {ρ σ α β : Type}

/-- A computation with a record, over a network whose state may be anything. -/
abbrev Noted (ρ : Type) : Type → Type := StateT (List Exchange) (StateM ρ)

/-- Whatever the network does, a computation adds exchanges to the record of which a postcondition
holds. -/
def Leaves (x : Noted ρ α) (post : α → List Exchange → Prop) : Prop :=
  ∀ log server, ∃ a es server', Id.run ((x.run log).run server) =
    ((a, log ++ es), server') ∧ post a es

namespace Leaves

variable {x : Noted ρ α} {post post' : α → List Exchange → Prop}

theorem mono (hx : Leaves x post) (h : ∀ a es, post a es → post' a es) : Leaves x post' := by
  intro log server
  obtain ⟨a, es, server', hrun, hpost⟩ := hx log server
  exact ⟨a, es, server', hrun, h a es hpost⟩

theorem pure {a : α} (h : post a []) : Leaves (pure a : Noted ρ α) post := by
  intro log server
  refine ⟨a, [], server, ?_, h⟩
  rw [List.append_nil]
  rfl

/-- Exchanges are added one part after the other. -/
theorem bind {f : α → Noted ρ β} {next : β → List Exchange → Prop} (hx : Leaves x post)
    (hf : ∀ a es, post a es → Leaves (f a) fun b es' => next b (es ++ es')) :
    Leaves (x >>= f) next := by
  intro log server
  obtain ⟨a, es, server', hrun, hpost⟩ := hx log server
  obtain ⟨b, es', server'', hrest, hnext⟩ := hf a es hpost (log ++ es) server'
  refine ⟨b, es ++ es', server'', ?_, hnext⟩
  rw [StateT.run_bind, StateT.run_bind, Id.run_bind, hrun, hrest, List.append_assoc]

theorem bind_pure {f : α → β} {next : β → List Exchange → Prop} (hx : Leaves x post)
    (h : ∀ a es, post a es → next (f a) es) : Leaves (x >>= fun a => Pure.pure (f a)) next := by
  refine hx.bind fun a es ha => pure ?_
  rw [List.append_nil]
  exact h a es ha

theorem map {f : α → β} {next : β → List Exchange → Prop} (hx : Leaves x post)
    (h : ∀ a es, post a es → next (f a) es) : Leaves (f <$> x) next := by
  rw [map_eq_pure_bind]
  exact bind_pure hx h

theorem lift (x : StateM ρ α) : Leaves (StateT.lift x : Noted ρ α) fun _ es => es = [] := by
  intro log server
  refine ⟨(Id.run (x.run server)).1, [], (Id.run (x.run server)).2, ?_, rfl⟩
  rw [List.append_nil]
  rfl

/-- A request is noted with what came back for it. -/
theorem deliver (wire : Wire (StateM ρ)) (request : Request) :
    Leaves (wire.noted.deliver request) fun delivery es => es = [⟨request, delivery⟩] := by
  intro log server
  exact ⟨_, _, _, rfl, rfl⟩

end Leaves

def OnlyOutages (reply : Except Failure α) : Prop :=
  ∀ failure, reply = .error failure → ∃ o, failure = .unavailable o

theorem only_outages_ok (a : α) : OnlyOutages (.ok a) := by
  intro failure h
  cases h

theorem only_outages_outage (o : Outage) : OnlyOutages (outage o : Except Failure α) := by
  intro failure h
  exact ⟨o, (Except.error.inj h).symm⟩

/-- Parts that fail with outages alone make up a whole that does. -/
theorem OnlyOutages.bind {reply : Except Failure α} {f : α → Except Failure β}
    (h : OnlyOutages reply)
    (hf : ∀ a, OnlyOutages (f a)) : OnlyOutages (reply >>= f) := by
  cases reply with
  | ok a => exact hf a
  | error failure =>
    obtain ⟨o, rfl⟩ := h failure rfl
    exact only_outages_outage o

theorem OnlyOutages.map {reply : Except Failure α} (h : OnlyOutages reply) (f : α → β) :
    OnlyOutages (reply.map f) := by
  cases reply with
  | ok a => exact only_outages_ok (f a)
  | error failure =>
    obtain ⟨o, rfl⟩ := h failure rfl
    exact only_outages_outage o

def FetchedFrom (urls : List String) (es : List Exchange) : Prop :=
  ∀ e ∈ es, ∃ url ∈ urls, e.IsFetchOf url

theorem FetchedFrom.nil (urls : List String) : FetchedFrom urls [] :=
  fun _ h => absurd h List.not_mem_nil

theorem FetchedFrom.append {urls more : List String} {es es' : List Exchange}
    (h : FetchedFrom urls es)
    (h' : FetchedFrom more es') : FetchedFrom (urls ++ more) (es ++ es') := by
  intro e he
  rcases List.mem_append.mp he with he | he
  · obtain ⟨url, hurl, hfetch⟩ := h e he
    exact ⟨url, List.mem_append_left _ hurl, hfetch⟩
  · obtain ⟨url, hurl, hfetch⟩ := h' e he
    exact ⟨url, List.mem_append_right _ hurl, hfetch⟩

/-- A reply is true to the fetches that were made for it: a success to bodies that all arrived in
full, and that something is missing to an answer that says so. -/
inductive Sincere (urls : List String) : Except Failure α → List Exchange → Prop
  | whole {a : α} {es : List Exchange} (hfetched : FetchedFrom urls es)
      (hwhole : ∀ e ∈ es, e.IsWhole) :
    Sincere urls (.ok a) es
  | missing {m : Missing} {es : List Exchange} (hfetched : FetchedFrom urls es)
      (hknown : ∀ e ∈ es, e.IsWhole ∨ e.IsMissing) (hmissing : ∃ e ∈ es, e.IsMissing) :
    Sincere urls (.error (.notFound m)) es
  | outage {o : Outage} {es : List Exchange} (hfetched : FetchedFrom urls es) :
    Sincere urls (.error (.unavailable o)) es

namespace Sincere

variable {urls more : List String} {reply : Except Failure α} {es es' : List Exchange}

/-- A fetch is judged by what came back: a success by a body that arrived, a miss by an answer that
says so. -/
theorem judged {url sent : String} {authorization : Option String}
    (hheading : heading url none = .ok (sent, authorization)) (path : String)
    (delivery : Delivery) :
    Sincere [url] (judgeFetch path url sent delivery) [⟨.get sent authorization, delivery⟩] := by
  have hfetched : FetchedFrom [url] [⟨.get sent authorization, delivery⟩] := by
    intro e he
    obtain rfl := List.mem_singleton.mp he
    exact ⟨url, List.mem_cons_self, sent, authorization, hheading, rfl⟩
  cases delivery with
  | dropped => exact .outage hfetched
  | answered status body =>
    simp only [judgeFetch]
    by_cases hmissing : status = 404
    · -- the body does not matter, and may be cut
      subst hmissing
      have hgone : Exchange.IsMissing ⟨.get sent authorization, .answered 404 body⟩ := ⟨body, rfl⟩
      exact .missing hfetched (List.forall_mem_singleton.mpr (.inr hgone))
        ⟨_, List.mem_cons_self, hgone⟩
    · rw [if_neg hmissing]
      cases hstatus : isSuccess status with
      | false => exact .outage hfetched
      | true =>
        cases body with
        | whole bytes =>
          exact .whole hfetched (List.forall_mem_singleton.mpr ⟨status, bytes, hstatus, rfl⟩)
        | cut => exact .outage hfetched

/-- What is made of a reply is sincere if nothing but an outage can come of it. -/
theorem bind {f : α → Except Failure β} (h : Sincere urls reply es) (hf : ∀ a, OnlyOutages (f a)) :
    Sincere urls (reply >>= f) es := by
  cases h with
  | @whole a _ hfetched hwhole =>
    change Sincere urls (f a) es
    cases hfa : f a with
    | ok b => exact .whole hfetched hwhole
    | error failure =>
      obtain ⟨o, rfl⟩ := hf a failure hfa
      exact .outage hfetched
  | missing hfetched hknown hmissing => exact .missing hfetched hknown hmissing
  | outage hfetched => exact .outage hfetched

theorem map (f : α → β) (h : Sincere urls reply es) : Sincere urls (reply.map f) es := by
  cases h with
  | whole hfetched hwhole => exact .whole hfetched hwhole
  | missing hfetched hknown hmissing => exact .missing hfetched hknown hmissing
  | outage hfetched => exact .outage hfetched

/-- No more fetches are made after a failure. -/
theorem failed {failure : Failure} (h : Sincere urls (.error failure : Except Failure α) es)
    (more : List String) :
    Sincere (urls ++ more) (.error failure : Except Failure β) es := by
  have hmore (hfetched : FetchedFrom urls es) : FetchedFrom (urls ++ more) es := by
    have happended := hfetched.append (FetchedFrom.nil more)
    rwa [List.append_nil] at happended
  cases h with
  | missing hfetched hknown hmissing => exact .missing (hmore hfetched) hknown hmissing
  | outage hfetched => exact .outage (hmore hfetched)

/-- Fetches made after others that went well. -/
theorem after {reply : Except Failure β} (hfetched : FetchedFrom urls es)
    (hwhole : ∀ e ∈ es, e.IsWhole)
    (h : Sincere more reply es') : Sincere (urls ++ more) reply (es ++ es') := by
  cases h with
  | whole hfetched' hwhole' =>
    exact .whole (hfetched.append hfetched') (List.forall_mem_append.mpr ⟨hwhole, hwhole'⟩)
  | missing hfetched' hknown hmissing =>
    obtain ⟨e, he, hgone⟩ := hmissing
    have hboth := List.forall_mem_append.mpr ⟨fun e he => Or.inl (hwhole e he), hknown⟩
    exact .missing (hfetched.append hfetched') hboth ⟨e, List.mem_append_right _ he, hgone⟩
  | outage hfetched' => exact .outage (hfetched.append hfetched')

end Sincere

/-- A fetch leaves one exchange behind, and its reply is true to it. -/
theorem leaves_fetch (wire : Wire (StateM ρ)) (base : BaseUrl) (path : String) :
    Leaves (fetch wire.noted base path) (Sincere [base.join path]) := by
  simp only [fetch]
  cases hheading : heading (base.join path) none with
  | error cause => exact .pure (Sincere.outage (FetchedFrom.nil _))
  | ok found =>
    refine (Leaves.deliver wire _).bind ?_
    rintro delivery es rfl
    exact .pure (Sincere.judged hheading path delivery)

theorem only_outages_read_json (path : String) (shape : Json → Option α) (bytes : Bytes) :
    OnlyOutages (readJson path shape bytes) := by
  simp only [readJson]
  cases (Json.parse? (Utf8.decodeLossy bytes)).bind shape with
  | some a => exact only_outages_ok a
  | none => exact only_outages_outage _

theorem leaves_fetch_json (wire : Wire (StateM ρ)) (base : BaseUrl) (path : String)
    (shape : Json → Option α) :
    Leaves (fetchJson wire.noted base path shape) (Sincere [base.join path]) :=
  (leaves_fetch wire base path).bind_pure fun _ _ h => h.bind (only_outages_read_json path shape)

theorem only_outages_judge_call (url sent : String) (delivery : Delivery) :
    OnlyOutages (judgeCall url sent delivery) := by
  cases delivery with
  | dropped => exact only_outages_outage _
  | answered status body =>
    cases body with
    | cut => exact only_outages_outage _
    | whole bytes =>
      simp only [judgeCall]
      cases (Json.parse? (Utf8.decodeLossy bytes)).bind RpcResponse.shape with
      | some response =>
        simp only [RpcResponse.outcome]
        cases response.error with
        | some error => exact only_outages_outage _
        | none => exact only_outages_ok _
      | none =>
        -- what the status says makes a difference only to which outage it is
        cases isSuccess status with
        | true => exact only_outages_outage _
        | false => exact only_outages_outage _

def NeverMissing (reply : Except Failure α) : Prop := ∀ m, reply ≠ .error (.notFound m)

/-- An outage does not say that something is missing. -/
theorem OnlyOutages.never_missing {reply : Except Failure α} (h : OnlyOutages reply) :
    NeverMissing reply := by
  intro m hm
  obtain ⟨o, ho⟩ := h _ hm
  cases ho

/-- A broadcast never fails for something that is missing. -/
theorem never_missing_read_broadcast {reply : Except Failure Json} (h : NeverMissing reply) :
    NeverMissing (readBroadcast reply) := by
  cases reply with
  | ok result =>
    refine OnlyOutages.never_missing ?_
    simp only [readBroadcast]
    cases result.string? with
    | none => exact only_outages_outage _
    | some text =>
      dsimp only
      cases Hash256.parse text with
      | ok id => exact only_outages_ok id
      | error fault => exact only_outages_outage _
  | error failure =>
    intro m hm
    have hblamed : blameCaller failure = .notFound m := Except.error.inj hm
    cases failure with
    | notFound missing => exact h missing rfl
    | unavailable cause =>
      cases cause with
      | server code message =>
        -- the caller is to blame, or the outage stays what it is
        simp only [blameCaller] at hblamed
        split at hblamed
        · cases hblamed
        · cases hblamed
      | _ => cases hblamed
    | _ => cases hblamed

/-- A call fetches nothing. -/
theorem leaves_call (wire : Wire (StateM ρ)) (endpoint : Endpoint) (id : Nat) (method : String)
    (params : List Json) :
    Leaves (call wire.noted endpoint id method params) fun reply es => NeverMissing reply ∧
    ∀ e ∈ es, ¬ e.IsFetch := by
  have hnone : ∀ e ∈ ([] : List Exchange), ¬ e.IsFetch := fun e he => absurd he List.not_mem_nil
  refine (Leaves.lift wire.readCookie).bind ?_
  rintro file _ rfl
  cases endpoint.authority.credentials file with
  | error refusal => exact .pure ⟨(fun m h => nomatch h), hnone⟩
  | ok credentials =>
    cases hheading : heading endpoint.base.text credentials with
    | error cause =>
      simp only [hheading]
      exact .pure ⟨(fun m h => nomatch h), hnone⟩
    | ok found =>
      simp only [hheading]
      refine (Leaves.deliver wire _).bind ?_
      rintro delivery _ rfl
      refine .pure ⟨(only_outages_judge_call _ _ _).never_missing, ?_⟩
      intro e he
      obtain rfl := List.mem_singleton.mp he
      rintro ⟨sent, authorization, hrequest⟩
      cases hrequest

end ChainLens.Web
