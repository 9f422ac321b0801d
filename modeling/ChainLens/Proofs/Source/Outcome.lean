import ChainLens.Source.Query
import Mathlib.Data.List.Forall2

/-!
Lookups with a source that keeps no memory. Such a lookup comes to one answer or one failure, found
part by part.
-/

namespace ChainLens.Lookup

variable {α β : Type}

def outcome (source : Source Id) (x : Lookup α) : Except Failure α := x.runWith source

variable (source : Source Id)

@[simp] theorem outcome_pure (a : α) : (pure a : Lookup α).outcome source = .ok a := rfl

@[simp] theorem outcome_throw (failure : Failure) :
    (throw failure : Lookup α).outcome source = .error failure := rfl

/-- The parts of a lookup are carried out in order, up to the first failure. -/
theorem run_with_bind {m : Type → Type} [Monad m] [LawfulMonad m] (source : Source m) (x : Lookup α)
    (f : α → Lookup β) :
    (x >>= f).runWith source = x.runWith source >>= fun
      | .ok a => (f a).runWith source
      | .error failure => pure (.error failure) := by
  rw [runWith, ExceptT.run_bind, Dialogue.bind_eq, Dialogue.run_bind, runWith]
  congr
  funext r
  cases r <;> rfl

/-- A lookup that goes on comes to what the rest comes to after its first part. -/
@[simp] theorem outcome_bind (x : Lookup α) (f : α → Lookup β) :
    (x >>= f).outcome source = x.outcome source >>= fun a => (f a).outcome source := by
  rw [outcome, run_with_bind]
  change (match x.outcome source with
    | .ok a => (f a).runWith source
    | .error failure => (.error failure : Except Failure β)) = _
  cases x.outcome source <;> rfl

/-- After an attempt the lookup goes on with the reply, a failure included. -/
theorem outcome_attempt_bind (q : Query) (f : q.Reply → Lookup β) :
    (attempt q >>= f).outcome source = (f (source.answer q)).outcome source := by
  rw [outcome_bind]
  rfl

theorem outcome_ask (q : Query) : (ask q).outcome source = source.answer q := rfl

theorem outcome_ask_bind (q : Query) (f : q.Result → Lookup β) :
    (ask q >>= f).outcome source = Except.bind (source.answer q) fun a => (f a).outcome source := by
  rw [outcome_bind]
  rfl

@[simp] theorem outcome_sound (x : Except Flaw α) :
    (sound x).outcome source = x.mapError .malformed := by
  cases x <;> rfl

/-- A list of lookups comes to the list of what they come to. -/
@[simp] theorem outcome_mapM (f : α → Lookup β) (l : List α) :
    (l.mapM f).outcome source = l.mapM fun a => (f a).outcome source := by
  induction l with
  | nil => rfl
  | cons a l ih =>
    simp only [List.mapM_cons, outcome_bind, outcome_pure, ih]
    rfl

/-- A success comes from a success of either part. -/
theorem bind_eq_ok {ε : Type} {x : Except ε α} {f : α → Except ε β} {b : β} :
    x >>= f = .ok b ↔ ∃ a, x = .ok a ∧ f a = .ok b := by
  cases x with
  | error e =>
    constructor
    · intro h
      cases h
    · rintro ⟨_, h, _⟩
      cases h
  | ok a =>
    constructor
    · intro h
      exact ⟨a, rfl, h⟩
    · rintro ⟨_, h, hb⟩
      exact Except.ok.inj h ▸ hb

/-- A failure is that of the first part, or of what follows its success. -/
theorem bind_eq_error {ε : Type} {x : Except ε α} {f : α → Except ε β} {e : ε} :
    x >>= f = .error e ↔ x = .error e ∨ ∃ a, x = .ok a ∧ f a = .error e := by
  cases x with
  | error first =>
    constructor
    · intro h
      exact .inl (congrArg Except.error (Except.error.inj h))
    · intro h
      obtain h | ⟨_, h, _⟩ := h
      · exact congrArg Except.error (Except.error.inj h)
      · cases h
  | ok a =>
    constructor
    · intro h
      exact .inr ⟨a, rfl, h⟩
    · intro h
      obtain h | ⟨_, h, he⟩ := h
      · cases h
      · exact Except.ok.inj h ▸ he

theorem mapError_eq_error {ε ε' : Type} {f : ε → ε'} {x : Except ε α} {e : ε'} :
    x.mapError f = .error e ↔ ∃ cause, x = .error cause ∧ f cause = e := by
  cases x with
  | error cause =>
    constructor
    · intro h
      exact ⟨cause, rfl, Except.error.inj h⟩
    · intro h
      obtain ⟨_, h, rfl⟩ := h
      exact congrArg (Except.error ∘ f) (Except.error.inj h)
  | ok a =>
    constructor
    · intro h
      cases h
    · intro h
      obtain ⟨_, h, _⟩ := h
      cases h

/-- A success is the same whatever name its failures would have had. -/
theorem mapError_eq_ok {ε ε' : Type} {f : ε → ε'} {x : Except ε α} {a : α} :
    x.mapError f = .ok a ↔ x = .ok a := by
  cases x with
  | error e =>
    constructor
    · intro h
      cases h
    · intro h
      cases h
  | ok b =>
    constructor
    · intro h
      exact congrArg Except.ok (Except.ok.inj h)
    · intro h
      exact congrArg Except.ok (Except.ok.inj h)

/-- All of a list succeed together just when each of them does. -/
theorem mapM_eq_ok {ε : Type} {f : α → Except ε β} {l : List α} {r : List β} :
    l.mapM f = .ok r ↔ List.Forall₂ (fun a b => f a = .ok b) l r := by
  induction l generalizing r with
  | nil =>
    rw [List.mapM_nil, List.forall₂_nil_left_iff]
    exact ⟨fun h => (Except.ok.inj h).symm, fun h => congrArg Except.ok h.symm⟩
  | cons a l ih =>
    simp only [List.mapM_cons, bind_eq_ok, List.forall₂_cons_left_iff]
    constructor
    · rintro ⟨b, hb, bs, hbs, h⟩
      exact ⟨b, bs, hb, ih.mp hbs, (Except.ok.inj h).symm⟩
    · rintro ⟨b, bs, hb, hbs, rfl⟩
      exact ⟨b, hb, bs, ih.mpr hbs, rfl⟩

theorem mapM_congr_of_mem {m : Type → Type} [Monad m] [LawfulMonad m] {f g : α → m β} {l : List α}
    (h : ∀ a ∈ l, f a = g a) : l.mapM f = l.mapM g := by
  induction l with
  | nil => simp
  | cons a l ih =>
    have hl : l.mapM f = l.mapM g := ih fun b hb => h b (List.mem_cons_of_mem a hb)
    rw [List.mapM_cons, List.mapM_cons, h a List.mem_cons_self, hl]

/-- A computation with a memory that goes on after a success only succeeds just when both parts do,
the second with the memory that the first left. -/
theorem run_and_then_eq_ok {σ : Type} {x : StateM σ (Except Failure α)}
    {rest : Except Failure α → StateM σ (Except Failure β)}
    (herror : ∀ failure, rest (.error failure) = pure (.error failure)) {memory after : σ} {b : β} :
    Id.run ((x >>= rest).run memory) = (.ok b, after) ↔
      ∃ a between, Id.run (x.run memory) = (.ok a, between) ∧
        Id.run ((rest (.ok a)).run between) = (.ok b, after) := by
  rw [StateT.run_bind, Id.run_bind]
  cases hx : Id.run (x.run memory) with
  | mk result between =>
    cases result with
    | ok a =>
      constructor
      · intro h
        exact ⟨a, between, rfl, h⟩
      · intro h
        obtain ⟨_, _, heq, h⟩ := h
        cases heq
        exact h
    | error failure =>
      simp only [herror]
      constructor
      · intro h
        cases h
      · intro h
        obtain ⟨_, _, heq, -⟩ := h
        cases heq

/-- With a memory, the rest of a lookup begins where its first part left it. -/
theorem run_bind_eq_ok {σ : Type} (source : Source (StateM σ)) {x : Lookup α} {f : α → Lookup β}
    {memory after : σ}
    {b : β} :
    Id.run (((x >>= f).runWith source).run memory) = (.ok b, after) ↔
      ∃ a between, Id.run ((x.runWith source).run memory) = (.ok a, between) ∧
        Id.run (((f a).runWith source).run between) = (.ok b, after) := by
  rw [run_with_bind]
  apply run_and_then_eq_ok
  intro failure
  rfl

end ChainLens.Lookup
