import ChainLens.Proofs.Source.Outcome
import ChainLens.Source.Combine

/-!
What is asked of a source. A lookup that asks questions of one kind only comes to the same with all
sources that agree on that kind, and a record of the questions grows by one with every question and
by nothing else.
-/

namespace ChainLens

/-- A recorded source answers as before, and notes the question. -/
theorem Source.run_recorded_answer {m : Type → Type} [Monad m] [LawfulMonad m] (source : Source m)
    (asked : List Query) (q : Query) :
    (source.recorded.answer q).run asked = (fun reply => (reply, q :: asked)) <$>
      source.answer q := by
  simp [recorded]

namespace Dialogue

variable {Q : Type} {Reply : Q → Type} {α β : Type} {p : Q → Prop}

/-- Whatever the replies, all questions have a property. -/
inductive AsksOnly (p : Q → Prop) : Dialogue Reply α → Prop
  | done (a : α) : AsksOnly p (.done a)
  | ask {q : Q} {next : Reply q → Dialogue Reply α} (here : p q) (rest : ∀ r, AsksOnly p (next r)) :
    AsksOnly p (.ask q next)

/-- If no part asks anything else, neither does the whole. -/
theorem AsksOnly.bind {d : Dialogue Reply α} {f : α → Dialogue Reply β} (hd : d.AsksOnly p)
    (hf : ∀ a, (f a).AsksOnly p) : (d.bind f).AsksOnly p := by
  induction hd with
  | done a => exact hf a
  | ask here _ ih => exact .ask here ih

/-- Of two ways of answering only the part matters in which a question is asked. -/
theorem AsksOnly.run_congr {m : Type → Type} [Monad m] {answer answer' : (q : Q) → m (Reply q)}
    (hagree : ∀ q, p q → answer q = answer' q) {d : Dialogue Reply α} (hd : d.AsksOnly p) :
    d.run answer = d.run answer' := by
  induction hd with
  | done a => rfl
  | @ask q next here _ ih =>
    have hnext : (fun r => (next r).run answer) = fun r => (next r).run answer' := funext ih
    calc (Dialogue.ask q next).run answer
        = answer q >>= fun r => (next r).run answer := rfl
      _ = answer' q >>= fun r => (next r).run answer' := by rw [hagree q here, hnext]
      _ = (Dialogue.ask q next).run answer' := rfl

/-- A list of dialogues is answered as each of them is, one after the other. -/
theorem run_mapM {m : Type → Type} [Monad m] [LawfulMonad m] (answer : (q : Q) → m (Reply q))
    (f : α → Dialogue Reply β) (l : List α) :
    (l.mapM f).run answer = l.mapM fun a => (f a).run answer := by
  induction l with
  | nil => rfl
  | cons a l ih =>
    simp only [List.mapM_cons, bind_eq, pure_eq, run_bind, ih]
    rfl

/-- Keeping a record of the questions changes nothing. -/
theorem run_recorded {m : Type → Type} [Monad m] [LawfulMonad m] (source : Source m)
    (d : Dialogue Query.Reply α)
    (asked : List Query) :
    Prod.fst <$> (d.run source.recorded.answer).run asked = d.run source.answer := by
  induction d generalizing asked with
  | done a => simp [run]
  | ask q next ih =>
    simp only [run, StateT.run_bind, source.run_recorded_answer, bind_map_left, map_bind, ih]

/-- Within a larger memory a dialogue uses its own part and leaves the rest. -/
theorem run_zoom {m : Type → Type} [Monad m] [LawfulMonad m] {σ τ : Type} {get : τ → σ}
    {set : σ → τ → τ}
    (hget : ∀ s t, get (set s t) = s) (hset : ∀ s s' t, set s (set s' t) = set s t)
    (hsame : ∀ t, set (get t) t = t)
    (source : Source (StateT σ m)) (d : Dialogue Query.Reply α) (memory : τ) :
    (d.run (source.zoom get set).answer).run memory =
      (fun r => (r.1, set r.2 memory)) <$> (d.run source.answer).run (get memory) := by
  induction d generalizing memory with
  | done a => simp [run, hsame]
  | ask q next ih =>
    have hstep : ((source.zoom get set).answer q).run memory =
        (fun r => (r.1, set r.2 memory)) <$> (source.answer q).run (get memory) := by
      rw [map_eq_pure_bind]
      rfl
    simp only [run, StateT.run_bind, hstep, bind_map_left, ih, hget, hset, map_bind]

end Dialogue

namespace Lookup

variable {α β : Type} {p : Query → Prop}

def AsksOnly (p : Query → Prop) (x : Lookup α) : Prop := Dialogue.AsksOnly p x.run

namespace AsksOnly

theorem pure (a : α) : AsksOnly p (Pure.pure a : Lookup α) := Dialogue.AsksOnly.done (Except.ok a)

theorem throw (failure : Failure) : AsksOnly p (throw failure : Lookup α) :=
  Dialogue.AsksOnly.done (Except.error failure)

theorem bind {x : Lookup α} {f : α → Lookup β} (hx : x.AsksOnly p) (hf : ∀ a, (f a).AsksOnly p) :
    (x >>= f).AsksOnly p := by
  rw [AsksOnly, ExceptT.run_bind]
  refine Dialogue.AsksOnly.bind hx fun result => ?_
  cases result with
  | ok a => exact hf a
  | error failure => exact Dialogue.AsksOnly.done (Except.error failure)

theorem ask {q : Query} (h : p q) : (Lookup.ask q).AsksOnly p :=
  Dialogue.AsksOnly.ask h fun reply => Dialogue.AsksOnly.done reply

theorem attempt {q : Query} (h : p q) : (Lookup.attempt q).AsksOnly p :=
  Dialogue.AsksOnly.ask h fun reply => Dialogue.AsksOnly.done (Except.ok reply)

theorem sound (x : Except Flaw α) : (Lookup.sound x).AsksOnly p := by
  cases x with
  | ok a => exact pure a
  | error flaw => exact throw (.malformed flaw)

theorem accept (x : Except Refusal α) : (Lookup.accept x).AsksOnly p := by
  cases x with
  | ok a => exact pure a
  | error refusal => exact throw (.invalid refusal)

theorem mapM {f : α → Lookup β} (hf : ∀ a, (f a).AsksOnly p) (l : List α) :
    (l.mapM f).AsksOnly p := by
  induction l with
  | nil => exact pure []
  | cons a l ih =>
    rw [List.mapM_cons]
    exact (hf a).bind fun b => ih.bind fun bs => pure (b :: bs)

/-- Sources that agree on what is asked make no difference. -/
theorem run_with_congr {m : Type → Type} [Monad m] {source source' : Source m} {x : Lookup α}
    (hagree : ∀ q, p q → source.answer q = source'.answer q) (hx : x.AsksOnly p) :
    x.runWith source = x.runWith source' :=
  Dialogue.AsksOnly.run_congr hagree hx

end AsksOnly

section Record

variable {m : Type → Type} [Monad m]

/-- What a lookup comes to, with the questions it asked put before those that had been asked, the
last one first. -/
def record (source : Source m) (x : Lookup α) (asked : List Query) :
    m (Except Failure α × List Query) :=
  (x.runWith source.recorded).run asked

theorem record_throw (source : Source m) (failure : Failure) (asked : List Query) :
    (throw failure : Lookup α).record source asked = Pure.pure (.error failure, asked) := rfl

variable [LawfulMonad m]

/-- The record of a lookup that goes on is that of its first part and then of the rest. -/
theorem record_bind (source : Source m) (x : Lookup α) (f : α → Lookup β) (asked : List Query) :
    (x >>= f).record source asked = x.record source asked >>= fun
      | (.ok a, asked) => (f a).record source asked
      | (.error failure, asked) => Pure.pure (.error failure, asked) := by
  rw [record, run_with_bind, StateT.run_bind, record]
  congr
  funext r
  obtain ⟨result, asked⟩ := r
  cases result <;> rfl

/-- A question is put down and answered. -/
theorem record_ask (source : Source m) (q : Query) (asked : List Query) :
    (ask q).record source asked = (fun reply => (reply, q :: asked)) <$> source.answer q := by
  rw [record, ← source.run_recorded_answer]
  exact congrArg (StateT.run · asked) (bind_pure (source.recorded.answer q))

end Record

end Lookup
end ChainLens
