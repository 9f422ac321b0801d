import ChainLens.Proofs.Source.Gated
import ChainLens.Proofs.Source.Transcript
import ChainLens.Proofs.Web.Noted

/-!
Dialogues whose questions are settled beforehand. Whatever the replies, such a dialogue asks what
its agenda lists and nothing else, so what the questions leave behind one by one is what the
dialogue leaves behind.
-/

namespace ChainLens

namespace Dialogue

section Agenda

variable {Q : Type} {Reply : Q → Type} {α β : Type} {qs : List Q}

/-- Whatever the replies, exactly the listed questions are asked, in order. -/
inductive Agenda : Dialogue Reply α → List Q → Prop
  | done (a : α) : Agenda (.done a) []
  | ask (q : Q) {next : Reply q → Dialogue Reply α} {qs : List Q} (rest : ∀ r, Agenda (next r) qs) :
    Agenda (.ask q next) (q :: qs)

/-- What goes on asks its own questions after those before it. -/
theorem Agenda.bind {d : Dialogue Reply α} {f : α → Dialogue Reply β} {more : List Q}
    (hd : d.Agenda qs)
    (hf : ∀ a, (f a).Agenda more) : (d.bind f).Agenda (qs ++ more) := by
  induction hd with
  | done a => exact hf a
  | ask q rest ih => exact .ask q ih

theorem Agenda.asks_only {d : Dialogue Reply α} {p : Q → Prop} (hd : d.Agenda qs)
    (h : ∀ q ∈ qs, p q) :
    d.AsksOnly p := by
  induction hd with
  | done a => exact .done a
  | ask q rest ih =>
    exact .ask (h q List.mem_cons_self) fun r => ih r fun q' hq' =>
      h q' (List.mem_cons_of_mem q hq')

end Agenda

variable {σ ρ α : Type} {qs : List Query} {d : Dialogue Query.Reply α}

/-- The questions put to a source are those of the agenda. -/
theorem Agenda.map_lines (h : d.Agenda qs) (source : Source (StateM σ)) (memory : σ) :
    (d.lines source memory).map Sigma.fst = qs := by
  induction h generalizing memory with
  | done a => rfl
  | ask q rest ih =>
    let answered := Id.run ((source.answer q).run memory)
    exact congrArg (q :: ·) (ih answered.1 answered.2)

/-- When every question leaves one exchange behind, the dialogue leaves them all, in order. -/
theorem Agenda.leaves {source : Source (Web.Noted ρ)} (h : d.Agenda qs)
    (post : Query → Web.Exchange → Prop)
    (hquestion : ∀ q ∈ qs, Web.Leaves (source.answer q) fun _ es => ∃ e, es = [e] ∧ post q e) :
    Web.Leaves (d.run source.answer) fun _ es => List.Forall₂ post qs es := by
  induction h with
  | done a => exact .pure .nil
  | ask q rest ih =>
    refine (hquestion q List.mem_cons_self).bind ?_
    rintro reply _ ⟨e, rfl, hpost⟩
    have hlater := ih reply fun q' hq' => hquestion q' (List.mem_cons_of_mem q hq')
    exact hlater.mono fun _ _ hes => .cons hpost hes

/-- An idle turnstile counts every question of a dialogue once. -/
theorem acquired_run_limited {t : Turnstile Nat} (h : t.Idle) (source : Source (StateM σ))
    (d : Dialogue Query.Reply α) (memory : σ) :
    (Id.run (((d.run source.limited.answer).run t).run memory)).1.2.acquired =
      t.acquired + (d.lines source memory).length := by
  induction d generalizing t memory with
  | done a => rfl
  | ask q next ih =>
    let answered := Id.run ((source.answer q).run memory)
    have hrun : ((Dialogue.ask q next).run source.limited.answer).run t =
        source.answer q >>= fun reply => ((next reply).run source.limited.answer).run t.passed := by
      simp only [run, StateT.run_bind, source.run_limited_answer h, bind_map_left]
    have hlater := ih answered.1 h.passed answered.2
    calc (Id.run
        ((((Dialogue.ask q next).run source.limited.answer).run t).run memory)).1.2.acquired
        = t.acquired + 1 + ((next answered.1).lines source answered.2).length := by
          rw [hrun]
          exact hlater
      _ = t.acquired + ((Dialogue.ask q next).lines source memory).length := by
          change _ = t.acquired + (((next answered.1).lines source answered.2).length + 1)
          omega

end Dialogue

namespace Lookup

variable {α β : Type} {qs : List Query}

def Agenda (x : Lookup α) (qs : List Query) : Prop := Dialogue.Agenda x.run qs

namespace Agenda

theorem pure (a : α) : Agenda (Pure.pure a : Lookup α) [] := Dialogue.Agenda.done (Except.ok a)

theorem throw (failure : Failure) : Agenda (throw failure : Lookup α) [] :=
  Dialogue.Agenda.done (Except.error failure)

theorem sound (x : Except Flaw α) : (Lookup.sound x).Agenda [] := by
  cases x with
  | ok a => exact pure a
  | error flaw => exact throw (.malformed flaw)

theorem attempt_bind {q : Query} {f : q.Reply → Lookup β} (hf : ∀ reply, (f reply).Agenda qs) :
    (attempt q >>= f).Agenda (q :: qs) := Dialogue.Agenda.ask q hf

theorem asks_only {x : Lookup α} {p : Query → Prop} (hx : x.Agenda qs) (h : ∀ q ∈ qs, p q) :
    x.AsksOnly p :=
  Dialogue.Agenda.asks_only hx h

/-- What is done with a result without further questions changes nothing about the agenda. -/
theorem quiet_bind {x : Lookup α} {f : α → Lookup β} (hx : x.Agenda qs)
    (hf : ∀ a, (f a).Agenda []) :
    (x >>= f).Agenda qs := by
  rw [Agenda, ExceptT.run_bind, ← List.append_nil qs]
  refine Dialogue.Agenda.bind hx fun result => ?_
  cases result with
  | ok a => exact hf a
  | error failure => exact Dialogue.Agenda.done (Except.error failure)

end Agenda

end Lookup
end ChainLens
