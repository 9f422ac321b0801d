import ChainLens.Proofs.Explorer.SideBySide
import ChainLens.Proofs.Turnstile.Handover
import Mathlib.Algebra.Order.BigOperators.Group.Finset
import Mathlib.Logic.Relation

/-!
Calls that share an entrance. Every question goes through it on its own, so one call may be inside
at several places and wait at others; calls are begun and given up at any time, and a call that
fails early takes its other questions away from the entrance, wherever they are. No call is held
up for good, each returns what it may return without the entrance, and when none is under way the
entrance is empty.
-/

namespace ChainLens

namespace Explorer

/-- A call under way, and what is left of it. -/
structure Job where
  call : Call
  rest : Plan call.Result

/-- Calls under way at once. A question is known at the entrance by the number of its call and its
spot in it. -/
structure Crowd where
  gate : Entrance (Nat × Spot)
  jobs : Nat → Option Job

namespace Crowd

/-- Callers who belong to a call and whose questions are open no more, in the order in which they
leave. -/
structure Leaving (c : Crowd) (i : Nat) (stays : Spot → Prop) (gone : List (Nat × Spot)) :
    Prop where
  nodup : gone.Nodup
  mem_iff : ∀ x, x ∈ gone ↔ x ∈ c.gate.callers ∧ x.1 = i ∧ ¬ stays x.2

def replace (c : Crowd) (i : Nat) (job : Option Job) (gone : List (Nat × Spot)) : Crowd where
  gate := c.gate.run (gone.map .go)
  jobs := Function.update c.jobs i job

/-- A call gets on: a question comes to the entrance, or steps in after it was called, or is
answered and leaves; or parts of a plan are joined, and what is dropped leaves. -/
inductive Advance (source : Source Id) (c : Crowd) : Crowd → Prop
  | come (i : Nat) (spot : Spot) {job : Job} {q : Query} (hjob : c.jobs i = some job)
      (asks : job.rest.question? spot = some q) (away : (i, spot) ∉ c.gate.callers) :
    Advance source c { c with gate := c.gate.come (i, spot) }
  | look (x : Nat × Spot) (called : x ∈ c.gate.called) :
    Advance source c { c with gate := c.gate.look x }
  | answer (i : Nat) (spot : Spot) {job : Job} {rest : Plan job.call.Result}
      (hjob : c.jobs i = some job) (inside : (i, spot) ∈ c.gate.held)
      (hrest : job.rest.answer? source spot = some rest) :
    Advance source c (c.replace i (some ⟨job.call, rest⟩) [(i, spot)])
  | settle (i : Nat) (spot : Spot) {job : Job} {rest : Plan job.call.Result}
      {gone : List (Nat × Spot)} (hjob : c.jobs i = some job)
      (hrest : job.rest.settle? spot = some rest)
      (leaving : c.Leaving i (fun spot => rest.question? spot ≠ none) gone) :
    Advance source c (c.replace i (some ⟨job.call, rest⟩) gone)

/-- Calls get on, are begun, and are given up wherever they are. -/
inductive Change (network : Network) (source : Source Id) (c : Crowd) : Crowd → Prop
  | advance {c' : Crowd} (h : Advance source c c') : Change network source c c'
  | begin (i : Nat) (call : Call) (free : c.jobs i = none) :
    Change network source c
      { c with jobs := Function.update c.jobs i (some ⟨call, call.plan network⟩) }
  | drop (i : Nat) {gone : List (Nat × Spot)} (leaving : c.Leaving i (fun _ => False) gone) :
    Change network source c (c.replace i none gone)

/-- A crowd that came about from nobody at an empty entrance. -/
def Gathered (network : Network) (source : Source Id) (start : Entrance (Nat × Spot)) :
    Crowd → Prop :=
  Relation.ReflTransGen (Change network source) ⟨start, fun _ => none⟩

/-- What holds of every crowd: whoever is at the entrance has a question open, and what is left of
a call is left of its plan. -/
structure Fits (network : Network) (source : Source Id) (start : Entrance (Nat × Spot))
    (c : Crowd) : Prop where
  gate_eq : ∃ moves, c.gate = start.run moves
  nodup : c.gate.callers.Nodup
  asking : ∀ x ∈ c.gate.callers, ∃ job q, c.jobs x.1 = some job ∧ job.rest.question? x.2 = some q
  fares : ∀ i job, c.jobs i = some job →
    ∃ events, (job.call.plan network).after? source events = some job.rest
  finite : ∃ n, ∀ i, n ≤ i → c.jobs i = none

variable {network : Network} {source : Source Id} {start : Entrance (Nat × Spot)} {c c' : Crowd}

theorem Fits.sound (hs : start.Sound) (h : Fits network source start c) : c.gate.Sound := by
  obtain ⟨moves, hmoves⟩ := h.gate_eq
  rw [hmoves]
  exact hs.run moves

theorem Fits.steady (h : Fits network source start c) {i : Nat} {job : Job}
    (hjob : c.jobs i = some job) : job.rest.Steady := by
  obtain ⟨events, hevents⟩ := h.fares i job hjob
  exact ((steady_plan network job.call).after hevents).1

theorem finite_update {jobs : Nat → Option Job} (h : ∃ n, ∀ i, n ≤ i → jobs i = none) (i : Nat)
    (job : Option Job) : ∃ n, ∀ j, n ≤ j → Function.update jobs i job j = none := by
  obtain ⟨n, hn⟩ := h
  refine ⟨max n (i + 1), fun j hj => ?_⟩
  have hne : j ≠ i := by omega
  rw [Function.update_of_ne hne]
  exact hn j (Nat.le_trans (Nat.le_max_left ..) hj)

/-- A crowd fits when another job stands under a number, as long as those who stay at the entrance
for it have a question open. -/
theorem Fits.replace (h : Fits network source start c) {i : Nat} {job : Option Job}
    {gone : List (Nat × Spot)}
    (hstay : ∀ spot, (i, spot) ∈ c.gate.callers → (i, spot) ∉ gone →
      ∃ j q, job = some j ∧ j.rest.question? spot = some q)
    (hfares : ∀ j, job = some j →
      ∃ events, (j.call.plan network).after? source events = some j.rest) :
    Fits network source start (c.replace i job gone) := by
  obtain ⟨hnodup, hmem⟩ := Entrance.callers_run_go h.nodup gone
  obtain ⟨moves, hmoves⟩ := h.gate_eq
  refine ⟨⟨moves ++ gone.map .go, ?_⟩, hnodup, ?_, ?_, finite_update h.finite i job⟩
  · rw [Entrance.run_append, ← hmoves]
    rfl
  · rintro ⟨j, spot⟩ hx
    obtain ⟨hcaller, hstays⟩ := (hmem _).mp hx
    -- the callers of other numbers have their jobs as before
    by_cases hji : j = i
    · subst hji
      simp only [Crowd.replace, Function.update_self]
      exact hstay spot hcaller hstays
    · simp only [Crowd.replace, Function.update_of_ne hji]
      exact h.asking _ hcaller
  · intro j new hnew
    by_cases hji : j = i
    · subst hji
      simp only [Crowd.replace, Function.update_self] at hnew
      exact hfares new hnew
    · simp only [Crowd.replace, Function.update_of_ne hji] at hnew
      exact h.fares j new hnew

/-- Whoever comes to the entrance or steps in changes nothing about the calls. -/
theorem Fits.move (h : Fits network source start c) {m : Entrance.Move (Nat × Spot)}
    (hnodup : (c.gate.move m).callers.Nodup)
    (hasking : ∀ x ∈ (c.gate.move m).callers, x ∈ c.gate.callers ∨
      ∃ job q, c.jobs x.1 = some job ∧ job.rest.question? x.2 = some q) :
    Fits network source start { c with gate := c.gate.move m } := by
  obtain ⟨moves, hmoves⟩ := h.gate_eq
  refine ⟨⟨moves ++ [m], ?_⟩, hnodup, ?_, h.fares, h.finite⟩
  · rw [Entrance.run_concat, ← hmoves]
  · intro x hx
    rcases hasking x hx with hx | hx
    · exact h.asking x hx
    · exact hx

/-- What holds of every crowd is kept when a call gets on. -/
theorem Fits.advance (h : Fits network source start c) (hstep : Advance source c c') :
    Fits network source start c' := by
  cases hstep with
  | @come i spot job q hjob asks away =>
    have hcallers := Entrance.callers_come c.gate (i, spot)
    apply h.move (m := .come (i, spot))
    · exact hcallers.nodup_iff.mpr (h.nodup.cons away)
    · intro x hx
      rcases List.mem_cons.mp (hcallers.mem_iff.mp hx) with rfl | hx
      · exact .inr ⟨job, q, hjob, asks⟩
      · exact .inl hx
  | look x called =>
    have hcallers := Entrance.callers_look c.gate x
    apply h.move (m := .look x)
    · exact hcallers.nodup_iff.mpr h.nodup
    · exact fun y hy => .inl (hcallers.mem_iff.mp hy)
  | @answer i spot job rest hjob inside hrest =>
    obtain ⟨events, hevents⟩ := h.fares i job hjob
    have hstep : job.rest.step? source (.answer spot) = some rest := hrest
    apply h.replace
    · -- the other questions of the call are open as before
      intro other hother hstays
      obtain ⟨old, q, hold, hq⟩ := h.asking _ hother
      obtain rfl := Option.some.inj (hjob.symm.trans hold)
      have hne : other ≠ spot := by
        rintro rfl
        exact hstays (List.mem_singleton_self _)
      exact ⟨_, q, rfl, Plan.question_of_answer hrest hne hq⟩
    · rintro j ⟨⟩
      exact ⟨events ++ [.answer spot], Plan.after_concat hevents hstep⟩
  | @settle i spot job rest gone hjob hrest leaving =>
    obtain ⟨events, hevents⟩ := h.fares i job hjob
    have hstep : job.rest.step? source (.settle spot) = some rest := hrest
    apply h.replace
    · intro other hother hstays
      have hopen : rest.question? other ≠ none := by
        by_contra hclosed
        exact hstays ((leaving.mem_iff _).mpr ⟨hother, rfl, not_not_intro hclosed⟩)
      obtain ⟨q, hq⟩ := Option.ne_none_iff_exists'.mp hopen
      exact ⟨_, q, rfl, hq⟩
    · rintro j ⟨⟩
      exact ⟨events ++ [.settle spot], Plan.after_concat hevents hstep⟩

/-- What holds of every crowd is kept when calls are begun or given up. -/
theorem Fits.change (h : Fits network source start c) (hstep : Change network source c c') :
    Fits network source start c' := by
  cases hstep with
  | advance hadvance => exact h.advance hadvance
  | begin i call free =>
    refine ⟨h.gate_eq, h.nodup, ?_, ?_, finite_update h.finite i _⟩
    · intro x hx
      obtain ⟨job, q, hjob, hq⟩ := h.asking x hx
      -- whoever is at the entrance belongs to another call
      have hne : x.1 ≠ i := by
        intro heq
        rw [heq, free] at hjob
        cases hjob
      exact ⟨job, q, by simp only [Function.update_of_ne hne, hjob], hq⟩
    · intro j job hjob
      by_cases hji : j = i
      · subst hji
        simp only [Function.update_self] at hjob
        obtain rfl := Option.some.inj hjob
        exact ⟨[], rfl⟩
      · simp only [Function.update_of_ne hji] at hjob
        exact h.fares j job hjob
  | @drop i gone leaving =>
    apply h.replace
    · intro spot hspot hstays
      exact absurd ((leaving.mem_iff _).mpr ⟨hspot, rfl, id⟩) hstays
    · intro j hj
      cases hj

theorem Gathered.fits {capacity : Nat} (hnew : Entrance.new capacity = .ok start)
    (h : Gathered network source start c) : Fits network source start c := by
  obtain ⟨-, -, hcallers, -⟩ := Entrance.sound_new hnew
  induction h with
  | refl =>
    refine ⟨⟨[], rfl⟩, ?_, ?_, ?_, ⟨0, fun _ _ => rfl⟩⟩
    · simp only [hcallers, List.nodup_nil]
    · intro x hx
      simp only [hcallers, List.not_mem_nil] at hx
    · intro i job hjob
      cases hjob
  | tail _ hstep ih => exact ih.change hstep

/-- Whoever is inside is answered, and takes no other place for it. -/
theorem Fits.exists_answer (h : Fits network source start c) {x : Nat × Spot}
    (hx : x ∈ c.gate.held) :
    ∃ job rest, c.jobs x.1 = some job ∧
      Advance source c (c.replace x.1 (some ⟨job.call, rest⟩) [x]) := by
  have hcaller : x ∈ c.gate.callers :=
    List.mem_append_left _ (List.mem_append_left _ hx)
  obtain ⟨job, q, hjob, hq⟩ := h.asking x hcaller
  obtain ⟨rest, hrest⟩ := Plan.exists_answer source hq
  exact ⟨job, rest, hjob, .answer x.1 x.2 hjob hx hrest⟩

/-- While a call is not at its end, some call gets on. -/
theorem Fits.exists_advance (hs : start.Sound) (hopen : 0 < start.capacity)
    (h : Fits network source start c) {i : Nat} {job : Job} (hjob : c.jobs i = some job)
    (hunfinished : job.rest.result? = none) : ∃ c', Advance source c c' := by
  have hgate := h.sound hs
  have hcapacity : c.gate.capacity = start.capacity := by
    obtain ⟨moves, hmoves⟩ := h.gate_eq
    rw [hmoves]
    exact (hs.counters_run moves).2.2.2
  -- whoever is inside is answered, and whoever is called steps in
  have hinside {x : Nat × Spot} (hx : x ∈ c.gate.held) : ∃ c', Advance source c c' := by
    obtain ⟨_, _, -, hstep⟩ := h.exists_answer hx
    exact ⟨_, hstep⟩
  rcases Plan.goes_on hunfinished with ⟨spot, q, hq⟩ | ⟨spot, rest, hrest⟩
  · by_cases hthere : (i, spot) ∈ c.gate.callers
    · rcases List.mem_append.mp hthere with hplace | hwaiting
      · rcases List.mem_append.mp hplace with hheld | hcalled
        · exact hinside hheld
        · exact ⟨_, .look _ hcalled⟩
      · -- if it waits, all places are taken
        have hfull : c.gate.held.length + c.gate.called.length = c.gate.capacity :=
          hgate.full (List.ne_nil_of_mem hwaiting)
        cases hheld : c.gate.held with
        | cons x held => exact hinside (hheld ▸ List.mem_cons_self)
        | nil =>
          have hcalled : 0 < c.gate.called.length := by
            rw [hheld, List.length_nil] at hfull
            omega
          obtain ⟨x, hx⟩ := List.exists_mem_of_length_pos hcalled
          exact ⟨_, .look x hx⟩
    · exact ⟨_, .come i spot hjob hq hthere⟩
  · let stays : Spot → Prop := fun spot => rest.question? spot ≠ none
    let leaves : Nat × Spot → Bool := fun x => x.1 = i ∧ (rest.question? x.2).isNone
    have hleaving : c.Leaving i stays (c.gate.callers.filter leaves) := by
      refine ⟨h.nodup.filter _, fun x => ?_⟩
      simp only [List.mem_filter, leaves, stays, decide_eq_true_eq, Option.isNone_iff_eq_none,
        not_not]
    exact ⟨_, .settle i spot hjob hrest hleaving⟩

theorem lt_of_job {n i : Nat} {job : Job} (hn : ∀ i, n ≤ i → c.jobs i = none)
    (hjob : c.jobs i = some job) : i < n := by
  by_contra hle
  rw [hn i (Nat.le_of_not_lt hle)] at hjob
  cases hjob

def work (source : Source Id) (n : Nat) (c : Crowd) : Nat :=
  ∑ i ∈ Finset.range n, (c.jobs i).elim 0 fun job => job.rest.length source

def questions (n : Nat) (c : Crowd) : List (Nat × Spot) :=
  (List.range n).flatMap fun i => (c.jobs i).elim [] fun job => job.rest.spots.map (i, ·)

/-- There are no more callers at the entrance than open questions. -/
theorem length_callers_le (h : Fits network source start c) {n : Nat}
    (hn : ∀ i, n ≤ i → c.jobs i = none) : c.gate.callers.length ≤ (c.questions n).length := by
  apply (h.nodup.subperm ?_).length_le
  intro x hx
  obtain ⟨job, q, hjob, hq⟩ := h.asking x hx
  apply List.mem_flatMap.mpr
  refine ⟨x.1, List.mem_range.mpr (lt_of_job hn hjob), ?_⟩
  rw [hjob]
  exact List.mem_map.mpr ⟨x.2, Plan.mem_spots hq, rfl⟩

/-- When less is left of one call, less is left of all. -/
theorem work_replace_lt {n i : Nat} {old new : Job} {gone : List (Nat × Spot)}
    (hn : ∀ i, n ≤ i → c.jobs i = none) (hold : c.jobs i = some old)
    (hlt : new.rest.length source < old.rest.length source) :
    (c.replace i (some new) gone).work source n < c.work source n := by
  apply Finset.sum_lt_sum
  · intro j _
    by_cases hji : j = i
    · subst hji
      simp only [replace, Function.update_self, hold, Option.elim_some]
      exact Nat.le_of_lt hlt
    · simp only [replace, Function.update_of_ne hji, Nat.le_refl]
  · refine ⟨i, Finset.mem_range.mpr (lt_of_job hn hold), ?_⟩
    simp only [replace, Function.update_self, hold, Option.elim_some]
    exact hlt

/-- Either less is left to do, or the same questions are open and some caller has come further. -/
theorem Fits.progress (h : Fits network source start c) {n : Nat}
    (hn : ∀ i, n ≤ i → c.jobs i = none) (hstep : Advance source c c') :
    c'.work source n < c.work source n ∨ c'.jobs = c.jobs ∧ c.gate.way < c'.gate.way := by
  cases hstep with
  | come i spot => exact .inr ⟨rfl, c.gate.way_lt_come (i, spot)⟩
  | look x called => exact .inr ⟨rfl, Entrance.way_lt_look called⟩
  | @answer i spot job rest hjob inside hrest =>
    left
    exact work_replace_lt hn hjob ((Plan.step_of_answer hrest).length_lt (h.steady hjob))
  | @settle i spot job rest gone hjob hrest leaving =>
    left
    exact work_replace_lt hn hjob ((Plan.step_of_settle hrest).length_lt (h.steady hjob))

theorem jobs_none_of_advance {n : Nat} (hn : ∀ i, n ≤ i → c.jobs i = none)
    (hstep : Advance source c c') : ∀ i, n ≤ i → c'.jobs i = none := by
  have hreplace {i : Nat} {old : Job} (hold : c.jobs i = some old) (new : Option Job) :
      ∀ j, n ≤ j → Function.update c.jobs i new j = none := by
    intro j hj
    have hlt : i < n := lt_of_job hn hold
    have hne : j ≠ i := by omega
    rw [Function.update_of_ne hne]
    exact hn j hj
  cases hstep with
  | come => exact hn
  | look => exact hn
  | answer i spot hjob => exact hreplace hjob _
  | settle i spot hjob => exact hreplace hjob _

/-- Nobody at the entrance has more than two steps behind him. -/
theorem way_le (h : Fits network source start c) {n : Nat} (hn : ∀ i, n ≤ i → c.jobs i = none) :
    c.gate.way ≤ 2 * (c.questions n).length := by
  have hlength := length_callers_le h hn
  simp only [Entrance.callers, List.length_append] at hlength
  simp only [Entrance.way]
  omega

/-- Calls that nobody joins cannot get on for ever. -/
theorem Fits.acc (h : Fits network source start c) :
    Acc (fun after before => Advance source before after) c := by
  obtain ⟨n, hn⟩ := h.finite
  -- first by what is left to do, then by how far the callers may still go
  induction hwork : c.work source n using Nat.strongRecOn generalizing c with
  | ind w ihwork =>
    induction hway : 2 * (c.questions n).length -
      c.gate.way using Nat.strongRecOn generalizing c with
    | ind g ihway =>
      refine Acc.intro c fun c' hstep => ?_
      have h' : Fits network source start c' := h.advance hstep
      have hn' := jobs_none_of_advance hn hstep
      rcases h.progress hn hstep with hless | ⟨hjobs, hfurther⟩
      · exact ihwork _ (hwork ▸ hless) h' hn' rfl
      · have hwork' : c'.work source n = w := by rw [← hwork, work, work, hjobs]
        have hquestions : c'.questions n = c.questions n := by rw [questions, questions, hjobs]
        have hle := way_le h' hn'
        refine ihway _ ?_ h' hn' hwork' rfl
        rw [← hway, hquestions]
        rw [hquestions] at hle
        omega

/-- Calls that an entrance does not hinder. -/
structure Unhindered (network : Network) (source : Source Id) (capacity : Nat) (c : Crowd) :
    Prop where
  in_flight_eq : c.gate.inFlight = c.gate.held.length
  balance : c.gate.acquired = c.gate.released + c.gate.inFlight
  peak_le : c.gate.inFlight ≤ c.gate.peak ∧ c.gate.peak ≤ capacity
  /-- No question waits that holds a place. -/
  apart : c.gate.callers.Nodup
  /-- A call that holds a place gets on by itself and gives the place back, whatever others it
  waits for. -/
  unblocked : ∀ x ∈ c.gate.held, ∃ job rest, c.jobs x.1 = some job ∧
    Advance source c (c.replace x.1 (some ⟨job.call, rest⟩) [x])
  /-- A call returns what it may return without the entrance. -/
  returned : ∀ i call result, c.jobs i = some ⟨call, .done result⟩ →
    Returns network source call result
  /-- While a call is not at its end some call gets on, if it is to let another in. -/
  gets_on : ∀ i job, c.jobs i = some job → job.rest.result? = none → ∃ c', Advance source c c'
  /-- If no more calls are begun, all of them come to their end. -/
  ends : ∀ run : Nat → Crowd, run 0 = c → ∃ n, ¬ Advance source (run n) (run (n + 1))
  at_rest : (∀ i job, c.jobs i = some job → job.rest.result? ≠ none) →
    c.gate.callers = [] ∧ c.gate.inFlight = 0 ∧ c.gate.acquired = c.gate.released

theorem exists_not_advance_of_acc (h : Acc (fun after before => Advance source before after) c) :
    ∀ run : Nat → Crowd, run 0 = c → ∃ n, ¬ Advance source (run n) (run (n + 1)) := by
  induction h with
  | intro c _ ih =>
    intro run hrun
    by_cases hstep : Advance source (run 0) (run 1)
    · obtain ⟨n, hn⟩ := ih (run 1) (hrun ▸ hstep) (fun n => run (n + 1)) rfl
      exact ⟨n + 1, hn⟩
    · exact ⟨0, hstep⟩

/-- An entrance hinders no calls, in whatever order they come, get on and are given up. -/
theorem Gathered.unhindered {capacity : Nat} (hc : 1 ≤ capacity)
    (hnew : Entrance.new capacity = .ok start) (h : Gathered network source start c) :
    Unhindered network source capacity c := by
  have hfits : Fits network source start c := h.fits hnew
  obtain ⟨hsound, hcapacity, -⟩ := Entrance.sound_new hnew
  have hgate : c.gate.Sound := hfits.sound hsound
  refine ⟨hgate.in_flight_eq, hgate.balance, ⟨hgate.below_peak, ?_⟩, hfits.nodup,
    fun _ hx => hfits.exists_answer hx, ?_, ?_, exists_not_advance_of_acc hfits.acc, ?_⟩
  · obtain ⟨moves, hmoves⟩ := hfits.gate_eq
    rw [hmoves]
    exact (Entrance.accounts_run hnew moves).peak_le
  · intro i call result hjob
    obtain ⟨events, hevents⟩ := hfits.fares i _ hjob
    exact returns_of_after hevents
  · intro i job hjob hunfinished
    exact hfits.exists_advance hsound (hcapacity ▸ hc) hjob hunfinished
  · intro hfinished
    -- whoever is at the entrance would have a question open
    have hnobody : c.gate.callers = [] := by
      apply List.eq_nil_iff_forall_not_mem.mpr
      intro x hx
      obtain ⟨job, q, hjob, hq⟩ := hfits.asking x hx
      obtain ⟨result, hresult⟩ := Option.ne_none_iff_exists'.mp (hfinished x.1 job hjob)
      rw [Plan.eq_done_of_result hresult] at hq
      cases hq
    have hheld : c.gate.held = [] := (List.append_eq_nil_iff.mp
      (List.append_eq_nil_iff.mp hnobody).1).1
    have hin : c.gate.inFlight = 0 := by rw [hgate.in_flight_eq, hheld, List.length_nil]
    exact ⟨hnobody, hin, by rw [hgate.balance, hin, Nat.add_zero]⟩

end Crowd
end Explorer
end ChainLens
