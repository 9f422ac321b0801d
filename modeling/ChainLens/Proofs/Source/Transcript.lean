import ChainLens.Proofs.Source.Asked

/-!
Transcripts of dialogues. A transcript has a line for every question that was asked, with the reply
that was given; the replies may be anything, as a source that changes between questions would give
them.
-/

namespace ChainLens

namespace Dialogue

variable {Q : Type} {Reply : Q → Type} {α β : Type}

/-- With the questions and replies of a transcript, a dialogue comes to a value. -/
inductive Comes : Dialogue Reply α → List (Sigma Reply) → α → Prop
  | done (a : α) : Comes (.done a) [] a
  | ask (q : Q) {next : Reply q → Dialogue Reply α} (reply : Reply q) {t : List (Sigma Reply)}
      {a : α} (rest : Comes (next reply) t a) :
    Comes (.ask q next) (⟨q, reply⟩ :: t) a

theorem comes_done {a b : α} {t : List (Sigma Reply)} : Comes (.done a) t b ↔ t = [] ∧ a = b := by
  constructor
  · intro h
    cases h
    exact ⟨rfl, rfl⟩
  · rintro ⟨rfl, rfl⟩
    exact .done a

theorem comes_send {q : Q} {t : List (Sigma Reply)} {reply : Reply q} :
    Comes (send q) t reply ↔ t = [⟨q, reply⟩] := by
  constructor
  · intro h
    cases h with
    | ask q reply rest =>
      cases rest
      rfl
  · rintro rfl
    exact .ask q reply (.done reply)

/-- A transcript of two parts falls into the transcripts of the parts. -/
theorem comes_bind {d : Dialogue Reply α} {f : α → Dialogue Reply β}
    {t : List (Sigma Reply)} {b : β} :
    Comes (d.bind f) t b ↔ ∃ t₁ a t₂, t = t₁ ++ t₂ ∧ Comes d t₁ a ∧ Comes (f a) t₂ b := by
  constructor
  · induction d generalizing t with
    | done a =>
      intro h
      exact ⟨[], a, t, rfl, .done a, h⟩
    | ask q next ih =>
      intro h
      cases h with
      | ask q reply rest =>
        obtain ⟨t₁, a, t₂, rfl, h₁, h₂⟩ := ih reply rest
        exact ⟨⟨q, reply⟩ :: t₁, a, t₂, rfl, .ask q reply h₁, h₂⟩
  · rintro ⟨t₁, a, t₂, rfl, h₁, h₂⟩
    induction h₁ with
    | done a => exact h₂
    | ask q reply rest ih => exact .ask q reply (ih h₂)

/-- The questions that a dialogue puts to a source with a memory, each with the reply to it. -/
def lines {σ : Type} (source : Source (StateM σ)) :
    Dialogue Query.Reply α → σ → List (Sigma Query.Reply)
  | .done _, _ => []
  | .ask q next, memory =>
    let answered := Id.run ((source.answer q).run memory)
    ⟨q, answered.1⟩ :: (next answered.1).lines source answered.2

/-- A dialogue comes to what the source makes it with the lines between them. -/
theorem comes_lines {σ : Type} (source : Source (StateM σ)) (d : Dialogue Query.Reply α)
    (memory : σ) :
    d.Comes (d.lines source memory) (Id.run ((d.run source.answer).run memory)).1 := by
  induction d generalizing memory with
  | done a => exact .done a
  | ask q next ih =>
    let answered := Id.run ((source.answer q).run memory)
    exact .ask q answered.1 (ih answered.1 answered.2)

/-- What a source with a memory answers is a transcript. -/
theorem exists_comes_run {σ : Type} (source : Source (StateM σ)) (d : Dialogue Query.Reply α)
    (memory : σ) :
    ∃ t, d.Comes t (Id.run ((d.run source.answer).run memory)).1 :=
  ⟨d.lines source memory, d.comes_lines source memory⟩

theorem AsksOnly.of_comes {p : Q → Prop} {d : Dialogue Reply α} (hd : d.AsksOnly p)
    {t : List (Sigma Reply)} {a : α}
    (h : d.Comes t a) : ∀ line ∈ t, p line.1 := by
  induction h with
  | done a => exact fun line hline => absurd hline List.not_mem_nil
  | ask q reply rest ih =>
    cases hd with
    | ask here others =>
      intro line hline
      rcases List.mem_cons.mp hline with rfl | hlater
      · exact here
      · exact ih (others reply) line hlater

end Dialogue

namespace Lookup

variable {α β : Type}

abbrev Line : Type := Sigma Query.Reply

/-- With the questions and replies of a transcript, a lookup comes to a success. -/
def Succeeds (x : Lookup α) (t : List Line) (a : α) : Prop := Dialogue.Comes x.run t (.ok a)

variable {t : List Line} {a : α} {b : β}

@[simp] theorem succeeds_pure {a' : α} : (pure a' : Lookup α).Succeeds t a ↔ t = [] ∧ a' = a := by
  change Dialogue.Comes (.done (Except.ok a')) t (Except.ok a) ↔ _
  rw [Dialogue.comes_done, Except.ok.injEq]

@[simp] theorem not_succeeds_throw (failure : Failure) :
    ¬ (throw failure : Lookup α).Succeeds t a := by
  change ¬ Dialogue.Comes (.done (Except.error failure)) t (Except.ok a)
  rw [Dialogue.comes_done]
  rintro ⟨-, h⟩
  cases h

/-- A success is one of the first part and then one of the rest. -/
@[simp] theorem succeeds_bind {x : Lookup α} {f : α → Lookup β} :
    (x >>= f).Succeeds t b ↔ ∃ t₁ a t₂, t = t₁ ++ t₂ ∧ x.Succeeds t₁ a ∧ (f a).Succeeds t₂ b := by
  rw [Succeeds, ExceptT.run_bind, Dialogue.bind_eq, Dialogue.comes_bind]
  constructor
  · rintro ⟨t₁, result, t₂, rfl, h₁, h₂⟩
    cases result with
    | error failure =>
      -- a failure of the first part is the failure of the whole
      obtain ⟨-, h⟩ := Dialogue.comes_done.mp h₂
      cases h
    | ok a => exact ⟨t₁, a, t₂, rfl, h₁, h₂⟩
  · rintro ⟨t₁, a, t₂, rfl, h₁, h₂⟩
    exact ⟨t₁, .ok a, t₂, rfl, h₁, h₂⟩

@[simp] theorem succeeds_ask {q : Query} {a : q.Result} : (ask q).Succeeds t a ↔ t = [⟨q, .ok a⟩] :=
  Dialogue.comes_send

@[simp] theorem succeeds_attempt {q : Query} {reply : q.Reply} :
    (attempt q).Succeeds t reply ↔ t = [⟨q, reply⟩] := by
  change Dialogue.Comes ((Dialogue.send q).bind fun r => .done (Except.ok r)) t (Except.ok reply) ↔
    _
  rw [Dialogue.comes_bind]
  constructor
  · rintro ⟨t₁, r, t₂, rfl, h₁, h₂⟩
    obtain ⟨rfl, h⟩ := Dialogue.comes_done.mp h₂
    obtain rfl := Except.ok.inj h
    rw [Dialogue.comes_send.mp h₁, List.append_nil]
  · rintro rfl
    exact ⟨_, reply, [], rfl, Dialogue.comes_send.mpr rfl, .done _⟩

theorem succeeds_ask_bind {q : Query} {f : q.Result → Lookup β} :
    (ask q >>= f).Succeeds t b ↔ ∃ a rest, t = ⟨q, .ok a⟩ :: rest ∧ (f a).Succeeds rest b := by
  rw [succeeds_bind]
  constructor
  · rintro ⟨t₁, a, rest, rfl, ha, h⟩
    obtain rfl := succeeds_ask.mp ha
    exact ⟨a, rest, rfl, h⟩
  · rintro ⟨a, rest, rfl, h⟩
    exact ⟨[⟨q, .ok a⟩], a, rest, rfl, succeeds_ask.mpr rfl, h⟩

/-- After an attempt any reply may lead to success. -/
theorem succeeds_attempt_bind {q : Query} {f : q.Reply → Lookup β} :
    (attempt q >>= f).Succeeds t b ↔ ∃ reply rest, t = ⟨q, reply⟩ :: rest ∧
    (f reply).Succeeds rest b := by
  rw [succeeds_bind]
  constructor
  · rintro ⟨t₁, reply, rest, rfl, hreply, h⟩
    obtain rfl := succeeds_attempt.mp hreply
    exact ⟨reply, rest, rfl, h⟩
  · rintro ⟨reply, rest, rfl, h⟩
    exact ⟨[⟨q, reply⟩], reply, rest, rfl, succeeds_attempt.mpr rfl, h⟩

/-- What comes after a guard is reached only if the guard lets it pass. -/
theorem succeeds_guarded {c : Prop} [Decidable c] {failure : Failure} {x : Lookup α} :
    (if c then throw failure else x).Succeeds t a ↔ ¬ c ∧ x.Succeeds t a := by
  by_cases hc : c
  · rw [if_pos hc]
    exact iff_of_false (not_succeeds_throw failure) fun h => h.1 hc
  · rw [if_neg hc]
    exact (and_iff_right hc).symm

@[simp] theorem succeeds_sound {x : Except Flaw α} :
    (sound x).Succeeds t a ↔ t = [] ∧ x = .ok a := by
  cases x with
  | ok a' => simp [sound]
  | error flaw => simp [sound]

/-- Nothing is asked to accept an argument. -/
@[simp] theorem succeeds_accept {x : Except Refusal α} :
    (accept x).Succeeds t a ↔ t = [] ∧ x = .ok a := by
  cases x with
  | ok a' => simp [accept]
  | error refusal => simp [accept]

theorem succeeds_accept_bind {x : Except Refusal α} {f : α → Lookup β} :
    (accept x >>= f).Succeeds t b ↔ ∃ a, x = .ok a ∧ (f a).Succeeds t b := by
  simp only [succeeds_bind, succeeds_accept]
  constructor
  · rintro ⟨_, a, t₂, rfl, ⟨rfl, hx⟩, h⟩
    exact ⟨a, hx, h⟩
  · rintro ⟨a, hx, h⟩
    exact ⟨[], a, t, rfl, ⟨rfl, hx⟩, h⟩

/-- Of lookups that succeed one after the other, each succeeds by itself with a part of the
transcript, and gives the value in its place. -/
theorem forall₂_of_mapM {f : α → Lookup β} {l : List α} {bs : List β}
    (h : (l.mapM f).Succeeds t bs) :
    List.Forall₂ (fun a b => ∃ t', t' ⊆ t ∧ (f a).Succeeds t' b) l bs := by
  induction l generalizing t bs with
  | nil =>
    obtain ⟨-, rfl⟩ := succeeds_pure.mp h
    exact .nil
  | cons a l ih =>
    simp only [List.mapM_cons, succeeds_bind, succeeds_pure] at h
    obtain ⟨t₁, first, _, rfl, hfirst, t₂, others, _, rfl, hothers, rfl, rfl⟩ := h
    refine .cons ⟨t₁, List.subset_append_left .., hfirst⟩ ((ih hothers).imp ?_)
    intro a' b' hlater
    obtain ⟨t', hsub, hsucceeds⟩ := hlater
    exact ⟨t', fun _ hline =>
      List.mem_append_right t₁ (List.mem_append_left [] (hsub hline)), hsucceeds⟩

theorem exists_succeeds_of_mapM {f : α → Lookup β} {l : List α} {bs : List β}
    (h : (l.mapM f).Succeeds t bs) {b : β}
    (hb : b ∈ bs) : ∃ a ∈ l, ∃ t', (f a).Succeeds t' b := by
  have heach := forall₂_of_mapM h
  clear h
  induction heach with
  | nil => cases hb
  | @cons a b' l bs hfirst _ ih =>
    rcases List.mem_cons.mp hb with rfl | hb
    · obtain ⟨t', -, hsucceeds⟩ := hfirst
      exact ⟨a, List.mem_cons_self, t', hsucceeds⟩
    · obtain ⟨a', ha, found⟩ := ih hb
      exact ⟨a', List.mem_cons_of_mem a ha, found⟩

/-- The questions that a lookup puts to a source with a memory, each with the reply to it. -/
def lines {σ : Type} (source : Source (StateM σ)) (x : Lookup α) (memory : σ) : List Line :=
  x.run.lines source memory

def resultFrom {σ : Type} (source : Source (StateM σ)) (x : Lookup α) (memory : σ) :
    Except Failure α :=
  (Id.run ((x.runWith source).run memory)).1

/-- A result with a source is a success with the lines it took. -/
theorem succeeds_lines {σ : Type} {source : Source (StateM σ)} {x : Lookup α} {memory : σ}
    (h : x.resultFrom source memory = .ok a) : x.Succeeds (x.lines source memory) a := by
  have hcomes := x.run.comes_lines source memory
  have hresult : (Id.run ((x.run.run source.answer).run memory)).1 = .ok a := h
  rw [hresult] at hcomes
  exact hcomes

end Lookup
end ChainLens
