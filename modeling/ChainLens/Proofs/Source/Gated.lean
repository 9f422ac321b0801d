import ChainLens.Proofs.Source.Asked
import ChainLens.Proofs.Turnstile.Counters

/-!
Lookups through a turnstile that nobody else uses. They come to what they come to without it, no
question has to wait, and the turnstile counts the questions.
-/

namespace ChainLens

namespace Turnstile

variable {ι : Type}

/-- Nobody is inside and nobody waits, though there is a place. -/
structure Idle (t : Turnstile ι) : Prop where
  capacity_pos : 0 < t.capacity
  held_eq : t.held = []
  waiting_eq : t.waiting = []
  in_flight_eq : t.inFlight = 0
  balance : t.acquired = t.released

def passed (t : Turnstile ι) : Turnstile ι :=
  { t with peak := max t.peak 1, acquired := t.acquired + 1, released := t.released + 1 }

/-- A number of callers have been inside, one after the other. -/
def passedBy (t : Turnstile ι) : Nat → Turnstile ι
  | 0 => t
  | n + 1 => (t.passedBy n).passed

variable {t : Turnstile ι}

theorem idle_new {capacity : Nat} (hc : 1 ≤ capacity) (h : new capacity = .ok t) : t.Idle := by
  obtain ⟨-, hcapacity, hheld, hwaiting, hzero⟩ := sound_new h
  simp only [counters, Prod.mk.injEq] at hzero
  obtain ⟨hin, -, hacquired, hreleased⟩ := hzero
  exact ⟨hcapacity ▸ hc, hheld, hwaiting, hin, hacquired.trans hreleased.symm⟩

theorem Idle.passed (h : t.Idle) : t.passed.Idle :=
  ⟨h.capacity_pos, h.held_eq, h.waiting_eq, h.in_flight_eq, congrArg Nat.succ h.balance⟩

/-- An idle turnstile is idle again when everybody has gone. -/
theorem Idle.passed_by (h : t.Idle) (n : Nat) : (t.passedBy n).Idle := by
  induction n with
  | zero => exact h
  | succ n ih => exact ih.passed

theorem acquired_passed_by (n : Nat) : (t.passedBy n).acquired = t.acquired + n := by
  induction n with
  | zero => rfl
  | succ n ih => exact congrArg Nat.succ ih

/-- One after the other, nobody meets anybody inside. -/
theorem peak_passed_by_le (n : Nat) : (t.passedBy n).peak ≤ max t.peak 1 := by
  induction n with
  | zero => exact Nat.le_max_left ..
  | succ n ih => exact Nat.max_le.mpr ⟨ih, Nat.le_max_right ..⟩

/-- Whoever comes to an idle turnstile is let in. -/
theorem Idle.acquire (h : t.Idle) (id : ι) : t.acquire id = t.enter id := by
  have hroom : t.held.length < t.capacity := by
    rw [h.held_eq]
    exact h.capacity_pos
  rw [Turnstile.acquire, h.waiting_eq, List.nil_append, settle, if_pos hroom, settle]
  simp only [enter, h.waiting_eq]

/-- When the only one inside goes, the turnstile is idle again. -/
theorem Idle.release_enter [DecidableEq ι] (h : t.Idle) (id : ι) :
    (t.enter id).release id = t.passed := by
  have hinside : id ∈ (t.enter id).held := List.mem_append_right _ (List.mem_singleton_self id)
  rw [release, if_pos hinside]
  simp only [enter, settle, Turnstile.passed, h.held_eq, h.waiting_eq, h.in_flight_eq,
    List.nil_append, List.erase_cons_head]

end Turnstile

namespace Source

variable {m : Type → Type} [Monad m] [LawfulMonad m] {α : Type} {t : Turnstile Nat}

/-- For calls that are made one at a time: a question that is not let in at once has nobody to wait
for, and is never answered. -/
def guarded (source : Source Id) : Source (StateT (Turnstile Nat) Option) where
  answer q := do
    let ticket := (← get).acquired
    modify fun t => t.acquire ticket
    if ticket ∈ (← get).held then
      modify fun t => t.release ticket
      return source.answer q
    else failure

/-- At an idle turnstile a question is answered at once. -/
theorem run_limited_answer (source : Source m) (h : t.Idle) (q : Query) :
    (source.limited.answer q).run t = (fun reply => (reply, t.passed)) <$> source.answer q := by
  have hcome : t.acquire t.acquired = t.enter t.acquired := h.acquire _
  have hgo : (t.enter t.acquired).release t.acquired = t.passed := h.release_enter _
  simp [limited, hcome, hgo]

/-- At an idle turnstile nobody has to wait. -/
theorem run_guarded_answer (source : Source Id) (h : t.Idle) (q : Query) :
    (source.guarded.answer q).run t = some (source.answer q, t.passed) := by
  have hcome : t.acquire t.acquired = t.enter t.acquired := h.acquire _
  have hinside : t.acquired ∈ (t.enter t.acquired).held :=
    List.mem_append_right _ (List.mem_singleton_self _)
  have hgo : (t.enter t.acquired).release t.acquired = t.passed := h.release_enter _
  simp [guarded, hcome, hinside, hgo]

end Source

namespace Dialogue

variable {m : Type → Type} [Monad m] [LawfulMonad m] {α : Type} {t : Turnstile Nat}

/-- Behind an idle turnstile a dialogue comes to what it comes to without it, and the turnstile
counts its questions. -/
theorem run_limited (source : Source m) (h : t.Idle) (d : Dialogue Query.Reply α)
    (asked : List Query) :
    (d.run source.limited.answer).run (t.passedBy asked.length) =
      (fun p => (p.1, t.passedBy p.2.length)) <$> (d.run source.recorded.answer).run asked := by
  induction d generalizing asked with
  | done a => simp [run]
  | ask q next ih =>
    have hidle : (t.passedBy asked.length).Idle := h.passed_by _
    -- the record grows by one question as the turnstile is passed once
    have hnext (reply : q.Reply) :
        ((next reply).run source.limited.answer).run (t.passedBy asked.length).passed =
          (fun p => (p.1, t.passedBy p.2.length)) <$>
            ((next reply).run source.recorded.answer).run (q :: asked) :=
      ih reply (q :: asked)
    simp only [run, StateT.run_bind, source.run_limited_answer hidle, source.run_recorded_answer,
      bind_map_left, hnext, map_bind]

/-- No question of a dialogue behind an idle turnstile has to wait. -/
theorem run_guarded (source : Source Id) (h : t.Idle) (d : Dialogue Query.Reply α) :
    (d.run source.guarded.answer).run t = some ((d.run source.limited.answer).run t).run := by
  induction d generalizing t with
  | done a => rfl
  | ask q next ih =>
    simp only [run, StateT.run_bind, source.run_guarded_answer h, source.run_limited_answer h]
    exact ih (source.answer q) h.passed

end Dialogue
end ChainLens
