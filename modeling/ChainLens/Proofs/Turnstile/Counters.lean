import ChainLens.Turnstile
import Mathlib.Data.List.Induction
import Mathlib.Tactic.ByContra

/-!
What happens at a turnstile, move by move, and what its counters say about it: how many callers are
inside, the most that ever were, and that everybody who came in is inside or has gone.
-/

namespace ChainLens.Turnstile

variable {ι : Type}

/-- A caller comes, or goes from inside or from the queue. -/
inductive Move (ι : Type)
  | come (id : ι)
  | go (id : ι)
  deriving DecidableEq

def counters (t : Turnstile ι) : Nat × Nat × Nat × Nat :=
  (t.inFlight, t.peak, t.acquired, t.released)

theorem exists_new {capacity : Nat} (h : 1 ≤ capacity) : ∃ t : Turnstile ι, new capacity = .ok t :=
  ⟨_, if_neg (Nat.ne_of_gt h)⟩

/-- While all places are taken nobody is let in. -/
theorem settle_full {t : Turnstile ι} (h : t.held.length = t.capacity) (queue : List ι) :
    t.settle queue = { t with waiting := queue } := by
  cases queue with
  | nil => rfl
  | cons id rest => rw [settle, if_neg (by omega)]

/-- Into the only free place goes the first who waits. -/
theorem settle_last_place {t : Turnstile ι} (h : t.held.length + 1 = t.capacity) (id : ι)
    (rest : List ι) :
    t.settle (id :: rest) = { t.enter id with waiting := rest } := by
  have hfull : (t.enter id).held.length = (t.enter id).capacity := by
    simp only [enter, List.length_append, List.length_singleton]
    exact h
  rw [settle, if_pos (by omega), settle_full hfull]

/-- Places are counted right, and nobody waits while one is free. -/
structure Sound (t : Turnstile ι) : Prop where
  in_flight_eq : t.inFlight = t.held.length
  bounded : t.held.length ≤ t.capacity
  full : t.waiting ≠ [] → t.held.length = t.capacity
  balance : t.acquired = t.released + t.inFlight
  below_peak : t.inFlight ≤ t.peak

theorem sound_new {capacity : Nat} {t : Turnstile ι} (h : new capacity = .ok t) :
    t.Sound ∧ t.capacity = capacity ∧ t.held = [] ∧ t.waiting = [] ∧ t.counters = (0, 0, 0, 0) := by
  unfold new at h
  split at h
  · cases h
  · cases h
    exact ⟨⟨rfl, Nat.zero_le _, fun hw => absurd rfl hw, rfl, Nat.le_refl _⟩, rfl, rfl, rfl, rfl⟩

variable [DecidableEq ι]

theorem length_leave {t : Turnstile ι} {id : ι} (h : id ∈ t.held) :
    (t.leave id).held.length + 1 = t.held.length := by
  have hpos : 0 < t.held.length := List.length_pos_of_mem h
  simp only [leave, List.length_erase_of_mem h]
  omega

def move (t : Turnstile ι) : Move ι → Turnstile ι
  | .come id => t.acquire id
  | .go id => t.release id

def run (t : Turnstile ι) (moves : List (Move ι)) : Turnstile ι := moves.foldl move t

@[simp] theorem run_nil (t : Turnstile ι) : t.run [] = t := rfl

theorem run_append (t : Turnstile ι) (past later : List (Move ι)) :
    t.run (past ++ later) = (t.run past).run later :=
  List.foldl_append ..

theorem run_concat (t : Turnstile ι) (past : List (Move ι)) (m : Move ι) :
    t.run (past ++ [m]) = (t.run past).move m := by
  rw [run_append]
  rfl

/-- What a move can do to a turnstile in which nobody waits while a place is free. -/
inductive Passage (t : Turnstile ι) : Move ι → Turnstile ι → Prop
  | admitted (id : ι) (room : t.held.length < t.capacity) (nobody : t.waiting = []) :
    Passage t (.come id) (t.enter id)
  | queued (id : ι) (full : t.held.length = t.capacity) :
    Passage t (.come id) { t with waiting := t.waiting ++ [id] }
  | left (id : ι) (inside : id ∈ t.held) (nobody : t.waiting = []) : Passage t (.go id) (t.leave id)
  | replaced (id next : ι) (rest : List ι) (inside : id ∈ t.held) (queue : t.waiting = next :: rest)
      (full : t.held.length = t.capacity) :
    Passage t (.go id) { (t.leave id).enter next with waiting := rest }
  | withdrawn (id : ι) (outside : id ∉ t.held) :
    Passage t (.go id) { t with waiting := t.waiting.erase id }

/-- Every move is one of the five. -/
theorem Sound.passage {t : Turnstile ι} (h : t.Sound) (m : Move ι) : Passage t m (t.move m) := by
  cases m with
  | come id =>
    by_cases hroom : t.held.length < t.capacity
    · -- a free place means an empty queue, so the newcomer is the only one to settle
      have hnobody : t.waiting = [] := by
        by_contra hw
        exact Nat.ne_of_lt hroom (h.full hw)
      have hmove : t.move (.come id) = t.enter id := by
        rw [move, acquire, hnobody, List.nil_append, settle, if_pos hroom, settle]
        simp only [enter, hnobody]
      rw [hmove]
      exact .admitted id hroom hnobody
    · have hfull : t.held.length = t.capacity := Nat.le_antisymm h.bounded (Nat.le_of_not_lt hroom)
      rw [move, acquire, settle_full hfull]
      exact .queued id hfull
  | go id =>
    by_cases hinside : id ∈ t.held
    · have hmove : t.move (.go id) = (t.leave id).settle t.waiting := by
        rw [move, release, if_pos hinside]
        rfl
      rw [hmove]
      cases hqueue : t.waiting with
      | nil =>
        have hsettle : (t.leave id).settle [] = t.leave id := by
          simp only [settle, leave, hqueue]
        rw [hsettle]
        exact .left id hinside hqueue
      | cons next rest =>
        -- somebody waited, so the place just left is the only free one
        have hfull : t.held.length = t.capacity := h.full (by simp [hqueue])
        have hplace : (t.leave id).held.length + 1 = (t.leave id).capacity := by
          rw [length_leave hinside]
          exact hfull
        rw [settle_last_place hplace]
        exact .replaced id next rest hinside hqueue hfull
    · rw [move, release, if_neg hinside]
      exact .withdrawn id hinside

/-- Whatever a move does, the places are counted right afterwards. -/
theorem Sound.of_passage {t t' : Turnstile ι} {m : Move ι} (h : t.Sound) (hp : Passage t m t') :
    t'.Sound := by
  obtain ⟨hcount, hbound, hfull, hbalance, hpeak⟩ := h
  cases hp with
  | admitted id room nobody =>
    refine ⟨?_, ?_, fun hw => absurd nobody hw, ?_, Nat.le_max_right ..⟩
    · simp only [enter, List.length_append, List.length_singleton, hcount]
    · simp only [enter, List.length_append, List.length_singleton]
      omega
    · simp only [enter, hbalance]
      omega
  | queued id full => exact ⟨hcount, hbound, fun _ => full, hbalance, hpeak⟩
  | left id inside nobody =>
    have hlength := length_leave inside
    refine ⟨?_, ?_, fun hw => absurd nobody hw, ?_, ?_⟩
    · change t.inFlight - 1 = (t.leave id).held.length
      omega
    · change (t.leave id).held.length ≤ t.capacity
      omega
    · simp only [leave]
      omega
    · simp only [leave]
      omega
  | replaced id next rest inside queue full =>
    have hlength := length_leave inside
    -- one goes and one comes in
    have hheld : ((t.leave id).enter next).held.length = t.held.length := by
      simp only [enter, List.length_append, List.length_singleton]
      exact hlength
    refine ⟨?_, ?_, fun _ => ?_, ?_, Nat.le_max_right ..⟩
    · change t.inFlight - 1 + 1 = ((t.leave id).enter next).held.length
      omega
    · change ((t.leave id).enter next).held.length ≤ t.capacity
      omega
    · change ((t.leave id).enter next).held.length = t.capacity
      omega
    · simp only [enter, leave]
      omega
  | withdrawn id outside =>
    refine ⟨hcount, hbound, fun hw => hfull ?_, hbalance, hpeak⟩
    intro hnobody
    apply hw
    simp only [hnobody, List.erase_nil]

theorem Sound.move {t : Turnstile ι} (h : t.Sound) (m : Move ι) : (t.move m).Sound :=
  h.of_passage (h.passage m)

/-- Places are counted right after any moves. -/
theorem Sound.run {t : Turnstile ι} (h : t.Sound) (moves : List (Move ι)) :
    (t.run moves).Sound := by
  induction moves generalizing t with
  | nil => exact h
  | cons m moves ih => exact ih (h.move m)

/-- Nothing is undone: the counters of arrivals and departures grow, and the peak is raised to the
number inside. -/
theorem Passage.counters {t t' : Turnstile ι} {m : Move ι} (h : t.Sound) (hp : Passage t m t') :
    t'.peak = max t.peak t'.inFlight ∧ t.acquired ≤ t'.acquired ∧ t.released ≤ t'.released ∧
      t'.capacity = t.capacity := by
  have hpeak := h.below_peak
  cases hp with
  | admitted id room nobody => exact ⟨rfl, Nat.le_succ _, Nat.le_refl _, rfl⟩
  | queued id full => exact ⟨(Nat.max_eq_left hpeak).symm, Nat.le_refl _, Nat.le_refl _, rfl⟩
  | left id inside nobody =>
    refine ⟨?_, Nat.le_refl _, Nat.le_succ _, rfl⟩
    simp only [leave]
    omega
  | replaced id next rest inside queue full => exact ⟨rfl, Nat.le_succ _, Nat.le_succ _, rfl⟩
  | withdrawn id outside => exact ⟨(Nat.max_eq_left hpeak).symm, Nat.le_refl _, Nat.le_refl _, rfl⟩

/-- Neither the peak nor the numbers of those who came and went ever fall. -/
theorem Sound.run_counters {t : Turnstile ι} (h : t.Sound) (moves : List (Move ι)) :
    t.peak ≤ (t.run moves).peak ∧ t.acquired ≤ (t.run moves).acquired ∧
    t.released ≤ (t.run moves).released ∧
      (t.run moves).capacity = t.capacity := by
  induction moves generalizing t with
  | nil => exact ⟨Nat.le_refl _, Nat.le_refl _, Nat.le_refl _, rfl⟩
  | cons m moves ih =>
    obtain ⟨hpeak, hacquired, hreleased, hcapacity⟩ := (h.passage m).counters h
    obtain ⟨hpeak', hacquired', hreleased', hcapacity'⟩ := ih (h.move m)
    have hstep : t.peak ≤ (t.move m).peak := hpeak ▸ Nat.le_max_left ..
    exact ⟨Nat.le_trans hstep hpeak', Nat.le_trans hacquired hacquired',
      Nat.le_trans hreleased hreleased',
      hcapacity'.trans hcapacity⟩

end ChainLens.Turnstile
