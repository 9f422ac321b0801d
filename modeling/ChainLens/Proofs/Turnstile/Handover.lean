import ChainLens.Proofs.Turnstile.Counters
import Mathlib.Data.List.Nodup
import Mathlib.Tactic.Tauto

/-!
A place that is given back belongs to the next caller before he takes it. What the counters tell
after any sequence of moves, those included in which somebody goes who has been called and has
not looked; and the turnstile at which everybody looks at once.
-/

namespace ChainLens.Entrance

variable {ι : Type}

inductive Move (ι : Type)
  | come (id : ι)
  | look (id : ι)
  | go (id : ι)
  deriving DecidableEq

def callers (e : Entrance ι) : List ι := e.held ++ e.called ++ e.waiting

theorem exists_new {capacity : Nat} (h : 1 ≤ capacity) :
    ∃ start : Entrance ι, new capacity = .ok start := by
  obtain ⟨t, ht⟩ := Turnstile.exists_new (ι := ι) h
  exact ⟨⟨t, []⟩, by rw [new, ht]; rfl⟩

/-- Places are counted right, and nobody waits while one is free. -/
structure Sound (e : Entrance ι) : Prop where
  in_flight_eq : e.inFlight = e.held.length
  bounded : e.held.length + e.called.length ≤ e.capacity
  full : e.waiting ≠ [] → e.held.length + e.called.length = e.capacity
  balance : e.acquired = e.released + e.inFlight
  below_peak : e.inFlight ≤ e.peak

/-- A place has just been given back, and nobody has been called to it yet. -/
structure Vacant (e : Entrance ι) : Prop where
  in_flight_eq : e.inFlight = e.held.length
  room : e.held.length + e.called.length < e.capacity
  full : e.waiting ≠ [] → e.held.length + e.called.length + 1 = e.capacity
  balance : e.acquired = e.released + e.inFlight
  below_peak : e.inFlight ≤ e.peak

theorem new_eq_ok {capacity : Nat} {start : Entrance ι} (h : new capacity = .ok start) :
    ∃ t, Turnstile.new capacity = .ok t ∧ start = ⟨t, []⟩ := by
  unfold new at h
  cases ht : (Turnstile.new capacity : Except Refusal (Turnstile ι)) with
  | error refusal => rw [ht] at h; cases h
  | ok t => rw [ht] at h; cases h; exact ⟨t, rfl, rfl⟩

theorem sound_new {capacity : Nat} {start : Entrance ι} (h : new capacity = .ok start) :
    start.Sound ∧ start.capacity = capacity ∧ start.callers = [] ∧
      start.counters = (0, 0, 0, 0) := by
  obtain ⟨t, ht, rfl⟩ := new_eq_ok h
  obtain ⟨hsound, hcapacity, hheld, hwaiting, hzero⟩ := Turnstile.sound_new ht
  refine ⟨⟨hsound.in_flight_eq, hsound.bounded, hsound.full, hsound.balance, hsound.below_peak⟩,
    hcapacity, ?_, hzero⟩
  simp only [callers, hheld, hwaiting, List.append_nil]

section
variable (e : Entrance ι)

/-! Calling the next changes nothing but who waits and who has been called. -/

@[simp] theorem capacity_hand_on : e.handOn.capacity = e.capacity := by
  unfold handOn; split <;> rfl
@[simp] theorem in_flight_hand_on : e.handOn.inFlight = e.inFlight := by
  unfold handOn; split <;> rfl
@[simp] theorem peak_hand_on : e.handOn.peak = e.peak := by unfold handOn; split <;> rfl
@[simp] theorem acquired_hand_on : e.handOn.acquired = e.acquired := by
  unfold handOn; split <;> rfl
@[simp] theorem released_hand_on : e.handOn.released = e.released := by
  unfold handOn; split <;> rfl

end

/-- Whoever is called was there before. -/
theorem callers_hand_on (e : Entrance ι) : e.handOn.callers = e.callers := by
  unfold handOn
  split
  · rfl
  · rename_i next rest hqueue
    simp only [callers, hqueue, List.append_assoc, List.singleton_append]

theorem callers_come (e : Entrance ι) (id : ι) : (e.come id).callers.Perm (id :: e.callers) := by
  unfold Entrance.come
  split
  · simp only [callers, Turnstile.enter, List.append_assoc]
    exact List.perm_middle
  · simp only [callers, ← List.append_assoc]
    exact List.perm_append_singleton _ _

/-- How far the callers have come: those inside have two steps behind them, the others one. -/
def way (e : Entrance ι) : Nat := 2 * e.held.length + e.called.length + e.waiting.length

/-- Coming is a step on the way. -/
theorem way_lt_come (e : Entrance ι) (id : ι) : e.way < (e.come id).way := by
  unfold Entrance.come
  split
  · simp only [way, Turnstile.enter, List.length_append, List.length_singleton]
    omega
  · simp only [way, List.length_append, List.length_singleton]
    omega

/-- A place that was given back is counted right once it has been handed on. -/
theorem Vacant.sound_hand_on {e : Entrance ι} (h : e.Vacant) : e.handOn.Sound := by
  cases hqueue : e.waiting with
  | nil =>
    have heq : e.handOn = e := by rw [handOn, hqueue]
    rw [heq]
    exact ⟨h.in_flight_eq, Nat.le_of_lt h.room, fun hw => absurd hqueue hw, h.balance, h.below_peak⟩
  | cons next rest =>
    have heq : e.handOn = { e with waiting := rest, called := e.called ++ [next] } := by
      rw [handOn, hqueue]
    have hfull : e.held.length + e.called.length + 1 = e.capacity := h.full (by simp [hqueue])
    have hlength : (e.called ++ [next]).length = e.called.length + 1 := List.length_append
    rw [heq]
    refine ⟨h.in_flight_eq, ?_, fun _ => ?_, h.balance, h.below_peak⟩
    · simp only [hlength]
      omega
    · simp only [hlength]
      omega

/-- Places are counted right when a caller comes. -/
theorem Sound.come {e : Entrance ι} (h : e.Sound) (id : ι) : (e.come id).Sound := by
  obtain ⟨hcount, hbound, hfull, hbalance, hpeak⟩ := h
  unfold Entrance.come
  split
  · rename_i hroom
    refine ⟨?_, ?_, fun hw => ?_, ?_, Nat.le_max_right ..⟩
    · simp only [Turnstile.enter, List.length_append, List.length_singleton, hcount]
    · simp only [Turnstile.enter, List.length_append, List.length_singleton]
      omega
    · -- nobody waits while a place is free
      exact absurd (hfull hw) (Nat.ne_of_lt hroom)
    · simp only [Turnstile.enter, hbalance]
      omega
  · exact ⟨hcount, hbound, fun _ => by simp only; omega, hbalance, hpeak⟩

variable [DecidableEq ι]

def move (e : Entrance ι) : Move ι → Entrance ι
  | .come id => e.come id
  | .look id => e.look id
  | .go id => e.go id

def run (e : Entrance ι) (moves : List (Move ι)) : Entrance ι := moves.foldl move e

@[simp] theorem run_nil (e : Entrance ι) : e.run [] = e := rfl

theorem run_append (e : Entrance ι) (past later : List (Move ι)) :
    e.run (past ++ later) = (e.run past).run later :=
  List.foldl_append ..

theorem run_concat (e : Entrance ι) (past : List (Move ι)) (m : Move ι) :
    e.run (past ++ [m]) = (e.run past).move m := by
  rw [run_append]
  rfl

theorem callers_look (e : Entrance ι) (id : ι) : (e.look id).callers.Perm e.callers := by
  unfold Entrance.look
  split
  · rename_i hid
    simp only [callers, Turnstile.enter, List.append_assoc]
    apply List.Perm.append_left
    rw [List.singleton_append, ← List.cons_append]
    exact (List.perm_cons_erase hid).symm.append_right _
  · exact List.Perm.refl _

/-- Whoever goes is gone, from wherever he was. -/
theorem callers_go (e : Entrance ι) (id : ι) : (e.go id).callers = e.callers.erase id := by
  unfold Entrance.go
  split
  · rename_i hheld
    rw [callers_hand_on]
    simp only [callers, Turnstile.leave, List.append_assoc, List.erase_append_left _ hheld]
  · rename_i hheld
    split
    · rename_i hcalled
      rw [callers_hand_on]
      simp only [callers, List.append_assoc, List.erase_append_right _ hheld,
        List.erase_append_left _ hcalled]
    · rename_i hcalled
      simp only [callers, List.append_assoc, List.erase_append_right _ hheld,
        List.erase_append_right _ hcalled]

/-- Stepping in is the next. -/
theorem way_lt_look {e : Entrance ι} {id : ι} (h : id ∈ e.called) : e.way < (e.look id).way := by
  have hpos : 0 < e.called.length := List.length_pos_of_mem h
  simp only [way, Entrance.look, if_pos h, Turnstile.enter, List.length_append,
    List.length_singleton, List.length_erase_of_mem h]
  omega

/-- When some have gone, one after the other, the others are still there. -/
theorem callers_run_go {e : Entrance ι} (h : e.callers.Nodup) (gone : List ι) :
    (e.run (gone.map .go)).callers.Nodup ∧
      ∀ x, x ∈ (e.run (gone.map .go)).callers ↔ x ∈ e.callers ∧ x ∉ gone := by
  induction gone generalizing e with
  | nil => exact ⟨h, fun x => by simp⟩
  | cons id gone ih =>
    have hgo : (e.go id).callers.Nodup := by
      rw [callers_go]
      exact h.erase id
    obtain ⟨hnodup, hmem⟩ := ih hgo
    refine ⟨hnodup, fun x => ?_⟩
    change x ∈ ((e.go id).run (gone.map .go)).callers ↔ _
    rw [hmem, callers_go, h.mem_erase_iff, List.mem_cons]
    tauto

theorem Sound.vacant_leave {e : Entrance ι} (h : e.Sound) {id : ι} (hid : id ∈ e.held) :
    Vacant ⟨e.leave id, e.called⟩ := by
  have hlength : (e.leave id).held.length + 1 = e.held.length := Turnstile.length_leave hid
  obtain ⟨hcount, hbound, hfull, hbalance, hpeak⟩ := h
  refine ⟨?_, ?_, fun hw => ?_, ?_, ?_⟩
  · change e.inFlight - 1 = (e.leave id).held.length
    omega
  · change (e.leave id).held.length + e.called.length < e.capacity
    omega
  · change (e.leave id).held.length + e.called.length + 1 = e.capacity
    have := hfull hw
    omega
  · change e.acquired = e.released + 1 + (e.inFlight - 1)
    omega
  · change e.inFlight - 1 ≤ e.peak
    omega

/-- Who has been called and goes gives the place back untouched. -/
theorem Sound.vacant_decline {e : Entrance ι} (h : e.Sound) {id : ι} (hid : id ∈ e.called) :
    Vacant { e with called := e.called.erase id } := by
  have hpos : 0 < e.called.length := List.length_pos_of_mem hid
  have hlength : (e.called.erase id).length + 1 = e.called.length := by
    rw [List.length_erase_of_mem hid]
    omega
  obtain ⟨hcount, hbound, hfull, hbalance, hpeak⟩ := h
  refine ⟨hcount, ?_, fun hw => ?_, hbalance, hpeak⟩
  · change e.held.length + (e.called.erase id).length < e.capacity
    omega
  · change e.held.length + (e.called.erase id).length + 1 = e.capacity
    have := hfull hw
    omega

/-- Places are counted right when a caller steps in. -/
theorem Sound.look {e : Entrance ι} (h : e.Sound) (id : ι) : (e.look id).Sound := by
  obtain ⟨hcount, hbound, hfull, hbalance, hpeak⟩ := h
  unfold Entrance.look
  split
  · rename_i hid
    have hpos : 0 < e.called.length := List.length_pos_of_mem hid
    -- a place that was called is held now
    have hplaces : (e.enter id).held.length + (e.called.erase id).length =
        e.held.length + e.called.length := by
      simp only [Turnstile.enter, List.length_append, List.length_singleton,
        List.length_erase_of_mem hid]
      omega
    refine ⟨?_, hplaces ▸ hbound, fun hw => hplaces.trans (hfull hw), ?_,
      Nat.le_max_right ..⟩
    · simp only [Turnstile.enter, List.length_append, List.length_singleton, hcount]
    · simp only [Turnstile.enter, hbalance]
      omega
  · exact ⟨hcount, hbound, hfull, hbalance, hpeak⟩

/-- Places are counted right when a caller goes. -/
theorem Sound.go {e : Entrance ι} (h : e.Sound) (id : ι) : (e.go id).Sound := by
  unfold Entrance.go
  split
  · rename_i hheld
    exact (h.vacant_leave hheld).sound_hand_on
  · split
    · rename_i hcalled
      exact (h.vacant_decline hcalled).sound_hand_on
    · refine ⟨h.in_flight_eq, h.bounded, fun hw => h.full ?_, h.balance, h.below_peak⟩
      intro hnobody
      apply hw
      simp only [hnobody, List.erase_nil]

theorem Sound.move {e : Entrance ι} (h : e.Sound) (m : Move ι) : (e.move m).Sound := by
  cases m with
  | come id => exact h.come id
  | look id => exact h.look id
  | go id => exact h.go id

/-- Places are counted right after any moves. -/
theorem Sound.run {e : Entrance ι} (h : e.Sound) (moves : List (Move ι)) : (e.run moves).Sound := by
  induction moves generalizing e with
  | nil => exact h
  | cons m moves ih => exact ih (h.move m)

/-- Whoever goes without having been inside leaves the counters alone. -/
theorem counters_go {e : Entrance ι} {id : ι} (h : id ∉ e.held) :
    (e.go id).counters = e.counters := by
  unfold Entrance.go
  rw [if_neg h]
  split
  · simp only [Turnstile.counters, in_flight_hand_on, peak_hand_on, acquired_hand_on,
      released_hand_on]
  · rfl

theorem capacity_go (e : Entrance ι) (id : ι) : (e.go id).capacity = e.capacity := by
  unfold Entrance.go
  split
  · exact capacity_hand_on _
  · split
    · exact capacity_hand_on _
    · rfl

/-- What a move does to the counters. None but the number inside ever falls, and the peak is
raised to that number. -/
theorem Sound.counters_move {e : Entrance ι} (h : e.Sound) (m : Move ι) :
    (e.move m).peak = max e.peak (e.move m).inFlight ∧ e.acquired ≤ (e.move m).acquired ∧
      e.released ≤ (e.move m).released ∧ (e.move m).capacity = e.capacity := by
  have hpeak : e.peak = max e.peak e.inFlight := (Nat.max_eq_left h.below_peak).symm
  cases m with
  | come id =>
    simp only [Entrance.move, Entrance.come]
    split
    · exact ⟨rfl, Nat.le_succ _, Nat.le_refl _, rfl⟩
    · exact ⟨hpeak, Nat.le_refl _, Nat.le_refl _, rfl⟩
  | look id =>
    simp only [Entrance.move, Entrance.look]
    split
    · exact ⟨rfl, Nat.le_succ _, Nat.le_refl _, rfl⟩
    · exact ⟨hpeak, Nat.le_refl _, Nat.le_refl _, rfl⟩
  | go id =>
    simp only [Entrance.move, capacity_go, and_true]
    -- only one who was inside is counted when he goes
    by_cases hheld : id ∈ e.held
    · simp only [Entrance.go, if_pos hheld, peak_hand_on, in_flight_hand_on, acquired_hand_on,
        released_hand_on, Turnstile.leave]
      exact ⟨by omega, Nat.le_refl _, Nat.le_succ _⟩
    · have hcounters : (e.go id).counters = e.counters := counters_go hheld
      simp only [Turnstile.counters, Prod.mk.injEq] at hcounters
      obtain ⟨hin, htop, hacquired, hreleased⟩ := hcounters
      rw [htop, hin, hacquired, hreleased]
      exact ⟨hpeak, Nat.le_refl _, Nat.le_refl _⟩

/-- Neither the peak nor the numbers of those who came and went ever fall. -/
theorem Sound.counters_run {e : Entrance ι} (h : e.Sound) (moves : List (Move ι)) :
    e.peak ≤ (e.run moves).peak ∧ e.acquired ≤ (e.run moves).acquired ∧
      e.released ≤ (e.run moves).released ∧ (e.run moves).capacity = e.capacity := by
  induction moves generalizing e with
  | nil => exact ⟨Nat.le_refl _, Nat.le_refl _, Nat.le_refl _, rfl⟩
  | cons m moves ih =>
    obtain ⟨hpeak, hacquired, hreleased, hcapacity⟩ := h.counters_move m
    obtain ⟨hpeak', hacquired', hreleased', hcapacity'⟩ := ih (h.move m)
    have hstep : e.peak ≤ (e.move m).peak := hpeak ▸ Nat.le_max_left ..
    exact ⟨Nat.le_trans hstep hpeak', Nat.le_trans hacquired hacquired',
      Nat.le_trans hreleased hreleased', hcapacity'.trans hcapacity⟩

/-- The peak of an entrance that starts empty is reached, and never passed. -/
theorem Sound.peak_run {e : Entrance ι} (h : e.Sound) (hempty : e.peak = e.inFlight)
    (moves : List (Move ι)) :
    (∀ past, past <+: moves → (e.run past).inFlight ≤ (e.run moves).peak) ∧
      ∃ past, past <+: moves ∧ (e.run past).inFlight = (e.run moves).peak := by
  constructor
  · rintro past ⟨later, rfl⟩
    rw [run_append]
    have hpast : (e.run past).Sound := h.run past
    exact Nat.le_trans hpast.below_peak (hpast.counters_run later).1
  · -- the last move leaves the peak where it was reached before, or raises it to who is inside now
    induction moves using List.reverseRecOn with
    | nil => exact ⟨[], List.prefix_refl _, hempty.symm⟩
    | append_singleton moves m ih =>
      have hpeak : (e.run (moves ++ [m])).peak =
          max (e.run moves).peak (e.run (moves ++ [m])).inFlight := by
        rw [run_concat]
        exact ((h.run moves).counters_move m).1
      rcases Nat.le_total (e.run (moves ++ [m])).inFlight (e.run moves).peak with hle | hle
      · obtain ⟨past, hpast, heq⟩ := ih
        refine ⟨past, hpast.trans (List.prefix_append ..), ?_⟩
        rw [hpeak, Nat.max_eq_left hle, heq]
      · exact ⟨moves ++ [m], List.prefix_refl _, by rw [hpeak, Nat.max_eq_right hle]⟩

/-- A place given back while somebody waits goes to the first in the queue, who is called. -/
theorem go_passes_on {e : Entrance ι} {id next : ι} {rest : List ι}
    (hid : id ∈ e.held ∨ id ∈ e.called) (hqueue : e.waiting = next :: rest) :
    next ∈ (e.go id).called ∧ (e.go id).waiting = rest := by
  have hlast (called : List ι) : next ∈ called ++ [next] :=
    List.mem_append_right _ (List.mem_singleton_self next)
  by_cases hheld : id ∈ e.held
  · have hwaiting : (e.leave id).waiting = next :: rest := hqueue
    simp only [Entrance.go, if_pos hheld, handOn, hwaiting]
    exact ⟨hlast _, trivial⟩
  · have hcalled : id ∈ e.called := hid.resolve_left hheld
    simp only [Entrance.go, if_neg hheld, if_pos hcalled, handOn, hqueue]
    exact ⟨hlast _, trivial⟩

/-- What the counters tell after moves from an empty entrance. -/
structure Accounts (capacity : Nat) (start : Entrance ι) (moves : List (Move ι)) : Prop where
  in_flight_eq : (start.run moves).inFlight = (start.run moves).held.length
  balance : (start.run moves).acquired = (start.run moves).released + (start.run moves).inFlight
  /-- There is a place for everybody who is inside or has been called. -/
  places : (start.run moves).held.length + (start.run moves).called.length ≤ capacity
  bounded : (start.run moves).inFlight ≤ capacity
  peak_bound : ∀ past, past <+: moves → (start.run past).inFlight ≤ (start.run moves).peak
  peak_reached : ∃ past, past <+: moves ∧ (start.run past).inFlight = (start.run moves).peak
  peak_le : (start.run moves).peak ≤ capacity
  grows : ∀ later, (start.run moves).peak ≤ (start.run (moves ++ later)).peak ∧
    (start.run moves).acquired ≤ (start.run (moves ++ later)).acquired ∧
    (start.run moves).released ≤ (start.run (moves ++ later)).released
  /-- Giving up counts for nothing, in the queue or when called and not yet inside. -/
  withdrawal : ∀ id, id ∉ (start.run moves).held →
    (start.run (moves ++ [.go id])).counters = (start.run moves).counters
  /-- No place is lost: whoever gives one back leaves it to the first who waits. -/
  passed_on : ∀ id next rest, id ∈ (start.run moves).held ∨ id ∈ (start.run moves).called →
    (start.run moves).waiting = next :: rest →
    next ∈ (start.run (moves ++ [.go id])).called ∧
      (start.run (moves ++ [.go id])).waiting = rest

theorem accounts_run {capacity : Nat} {start : Entrance ι} (hnew : new capacity = .ok start)
    (moves : List (Move ι)) : Accounts capacity start moves := by
  obtain ⟨hsound, hcapacity, -, hzero⟩ := sound_new hnew
  simp only [Turnstile.counters, Prod.mk.injEq] at hzero
  have hempty : start.peak = start.inFlight := hzero.2.1.trans hzero.1.symm
  have hplaces (past : List (Move ι)) :
      (start.run past).held.length + (start.run past).called.length ≤ capacity := by
    rw [← hcapacity, ← (hsound.counters_run past).2.2.2]
    exact (hsound.run past).bounded
  have hinside (past : List (Move ι)) : (start.run past).inFlight ≤ capacity := by
    rw [(hsound.run past).in_flight_eq]
    exact Nat.le_trans (Nat.le_add_right ..) (hplaces past)
  obtain ⟨hbound, past, hpast, hreached⟩ := hsound.peak_run hempty moves
  refine ⟨(hsound.run moves).in_flight_eq, (hsound.run moves).balance, hplaces moves,
    hinside moves, hbound, ⟨past, hpast, hreached⟩, hreached ▸ hinside past, ?_, ?_, ?_⟩
  · intro later
    rw [run_append]
    obtain ⟨hpeak, hacquired, hreleased, -⟩ := (hsound.run moves).counters_run later
    exact ⟨hpeak, hacquired, hreleased⟩
  · intro id hout
    rw [run_concat]
    exact counters_go hout
  · intro id next rest hid hqueue
    rw [run_concat]
    exact go_passes_on hid hqueue

/-- Whatever moves are made, the counters tell who is inside, the most that ever were, and who
came and went; none of them falls but the number inside. Giving up touches none, neither in the
queue nor in the time between being called and looking, and the place goes to the next. -/
theorem counters_account {capacity : Nat} (hc : 1 ≤ capacity) (moves : List (Move ι)) :
    ∃ start : Entrance ι, new capacity = .ok start ∧ Accounts capacity start moves := by
  obtain ⟨start, hnew⟩ := exists_new (ι := ι) hc
  exact ⟨start, hnew, accounts_run hnew moves⟩

/-- One place and three callers, of whom the second is called when the first goes and gives up
before he looks, so that the third gets in. -/
theorem counters_account_three : 1 ≤ 1 ∧ ∃ start : Entrance Nat, new 1 = .ok start ∧
    Accounts 1 start [.come 1, .come 2, .come 3, .go 1, .go 2, .look 3] ∧
      (start.run [.come 1, .come 2, .come 3, .go 1, .go 2]).counters = (0, 1, 1, 1) ∧
      (start.run [.come 1, .come 2, .come 3, .go 1, .go 2, .look 3]).counters = (1, 1, 2, 1) := by
  have hc : 1 ≤ 1 := Nat.le_refl 1
  obtain ⟨start, hnew, haccounts⟩ :=
    counters_account (ι := Nat) hc [.come 1, .come 2, .come 3, .go 1, .go 2, .look 3]
  refine ⟨hc, start, hnew, haccounts, ?_⟩
  cases hnew
  exact ⟨rfl, rfl⟩

def lookAll (e : Entrance ι) : Entrance ι := e.called.foldl look e

def promptly (e : Entrance ι) : Turnstile.Move ι → Entrance ι
  | .come id => (e.come id).lookAll
  | .go id => (e.go id).lookAll

/-- Looking at once after every move makes of an entrance the turnstile that lets the next in
when a place is given back. -/
theorem promptly_eq_move {t : Turnstile ι} (h : t.Sound) (m : Turnstile.Move ι) :
    promptly ⟨t, []⟩ m = ⟨t.move m, []⟩ := by
  have hpassage := h.passage m
  generalize t.move m = after at hpassage
  -- at most one is called by a move, and he looks before the next
  cases hpassage with
  | admitted id room nobody =>
    have hcome : come ⟨t, []⟩ id = ⟨t.enter id, []⟩ := if_pos room
    rw [promptly, hcome]
    rfl
  | queued id full =>
    have hcome : come ⟨t, []⟩ id = ⟨{ t with waiting := t.waiting ++ [id] }, []⟩ :=
      if_neg (Nat.not_lt.mpr (Nat.le_of_eq full.symm))
    rw [promptly, hcome]
    rfl
  | left id inside nobody =>
    have hgo : go ⟨t, []⟩ id = ⟨t.leave id, []⟩ := by
      rw [Entrance.go, if_pos inside, handOn]
      simp only [Turnstile.leave, nobody]
    rw [promptly, hgo]
    rfl
  | replaced id next rest inside queue full =>
    have hgo : go ⟨t, []⟩ id = ⟨{ t.leave id with waiting := rest }, [next]⟩ := by
      rw [Entrance.go, if_pos inside, handOn]
      simp only [Turnstile.leave, queue, List.nil_append]
    have hlook : look ⟨{ t.leave id with waiting := rest }, [next]⟩ next =
        ⟨{ (t.leave id).enter next with waiting := rest }, []⟩ := by
      rw [Entrance.look, if_pos (List.mem_singleton_self next)]
      simp only [Turnstile.enter, List.erase_cons_head]
    rw [promptly, hgo]
    exact hlook
  | withdrawn id outside =>
    have hgo : go ⟨t, []⟩ id = ⟨{ t with waiting := t.waiting.erase id }, []⟩ := by
      rw [Entrance.go, if_neg outside, if_neg List.not_mem_nil]
    rw [promptly, hgo]
    rfl

/-- A turnstile is an entrance at which everybody who is called looks at once. -/
theorem run_promptly {capacity : Nat} {start : Turnstile ι}
    (hnew : Turnstile.new capacity = .ok start) (moves : List (Turnstile.Move ι)) :
    new capacity = .ok ⟨start, []⟩ ∧
      moves.foldl promptly ⟨start, []⟩ = ⟨start.run moves, []⟩ := by
  obtain ⟨hsound, -⟩ := Turnstile.sound_new hnew
  refine ⟨by rw [new, hnew]; rfl, ?_⟩
  induction moves using List.reverseRecOn with
  | nil => rfl
  | append_singleton moves m ih =>
    rw [List.foldl_append, ih, Turnstile.run_concat]
    exact promptly_eq_move (hsound.run moves) m

end ChainLens.Entrance
