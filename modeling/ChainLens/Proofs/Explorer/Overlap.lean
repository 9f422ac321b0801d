import ChainLens.Proofs.Explorer.Crowd
import ChainLens.Proofs.Source.Gated
import ChainLens.Source.Table

/-!
Calls through a turnstile. Whether they are made one after the other or many are under way at
once, begun and given up at any time, each comes to what it comes to without the turnstile.
-/

namespace ChainLens

namespace Explorer

/-- With every answer at hand the calls of a session come to what each comes to alone. -/
theorem run_session (network : Network) (source : Source Id) (calls : List Call) :
    (session network calls).run source.answer =
      calls.map fun call => (⟨call, (call.lookup network).outcome source⟩ : Call.Outcome) := by
  induction calls with
  | nil => rfl
  | cons call calls ih =>
    have hcons : session network (call :: calls) =
        Dialogue.bind (call.lookup network).run fun result =>
          Dialogue.bind (session network calls) fun outcomes =>
            .done (⟨call, result⟩ :: outcomes) := by
      simp only [session, List.mapM_cons, Dialogue.bind_eq, Dialogue.pure_eq, Dialogue.bind_assoc,
        Dialogue.bind]
    have hrest (result : Except Failure call.Result) :
        (Dialogue.bind (session network calls) fun outcomes =>
            .done (⟨call, result⟩ :: outcomes)).run source.answer =
          (⟨call, result⟩ ::
            Id.run ((session network calls).run source.answer) : List Call.Outcome) :=
      Dialogue.run_bind source.answer _ _
    rw [hcons, Dialogue.run_bind]
    simp only [hrest, ih]
    rfl

theorem session_append (network : Network) (calls more : List Call) :
    session network (calls ++ more) =
      Dialogue.bind (session network calls) fun outcomes =>
        Dialogue.bind (session network more) fun later => .done (outcomes ++ later) := by
  simp only [session, List.mapM_append, Dialogue.bind_eq, Dialogue.pure_eq]

/-- More calls find the turnstile as those before them left it. -/
theorem run_session_append (network : Network) (source : Source Id) (start : Turnstile Nat)
    (calls more : List Call) :
    Id.run (((session network (calls ++ more)).run source.limited.answer).run start) =
      Prod.map ((Id.run (((session network calls).run source.limited.answer).run start)).1 ++ ·) id
        (Id.run (((session network more).run source.limited.answer).run
          (Id.run (((session network calls).run source.limited.answer).run start)).2)) := by
  rw [session_append, Dialogue.run_bind]
  simp only [Dialogue.run_bind]
  rfl

/-- Calls made one after the other through a turnstile of a given capacity, what they come to, and
the turnstile afterwards. -/
structure Transparent (network : Network) (source : Source Id) (capacity : Nat)
    (start : Turnstile Nat) (calls : List Call) (outcomes : List Call.Outcome)
    (after : Turnstile Nat) : Prop where
  run_eq : Id.run (((session network calls).run source.limited.answer).run start) =
    (outcomes, after)
  outcomes_eq : outcomes = calls.map fun call => ⟨call, (call.lookup network).outcome source⟩
  /-- In a longer session the turnstile is the same after these calls, and the others go on from
  there. -/
  resumes : ∀ more,
    Id.run (((session network (calls ++ more)).run source.limited.answer).run start) =
      Prod.map (outcomes ++ ·) id
        (Id.run (((session network more).run source.limited.answer).run after))
  /-- No question waits for a place. -/
  unblocked : ((session network calls).run source.guarded.answer).run start = some (outcomes, after)
  in_flight_eq : after.inFlight = 0
  balance : after.acquired = after.released
  peak_le : after.peak ≤ capacity
  /-- A place is taken for every question. -/
  acquired_eq : after.acquired =
    (((session network calls).run source.recorded.answer).run []).run.2.length

/-- Each of the calls finds a turnstile at which nobody is, and leaves it so. -/
theorem exists_transparent {capacity : Nat} (hc : 1 ≤ capacity) {start : Turnstile Nat}
    (hnew : Turnstile.new capacity = .ok start) (network : Network) (source : Source Id)
    (calls : List Call) :
    ∃ outcomes after, Transparent network source capacity start calls outcomes after := by
  have hidle : start.Idle := Turnstile.idle_new hc hnew
  obtain ⟨-, -, -, -, hzero⟩ := Turnstile.sound_new hnew
  simp only [Turnstile.counters, Prod.mk.injEq] at hzero
  -- each question finds nobody and leaves nobody, so only their number is seen
  let record : List Call.Outcome × List Query :=
    Id.run (((session network calls).run source.recorded.answer).run [])
  have hrun : Id.run (((session network calls).run source.limited.answer).run start) =
      (record.1, start.passedBy record.2.length) :=
    (session network calls).run_limited source hidle []
  have hrecord : record.1 = (session network calls).run source.answer :=
    (session network calls).run_recorded source []
  have hafter : (start.passedBy record.2.length).Idle := hidle.passed_by _
  refine ⟨record.1, start.passedBy record.2.length, hrun, ?_, ?_, ?_, hafter.in_flight_eq,
    hafter.balance, ?_, ?_⟩
  · rw [hrecord, run_session]
  · intro more
    rw [run_session_append, hrun]
  · rw [Dialogue.run_guarded source hidle, ← hrun]
  · apply Nat.le_trans (Turnstile.peak_passed_by_le _)
    rw [hzero.2.1]
    exact Nat.max_le.mpr ⟨Nat.zero_le _, hc⟩
  · rw [Turnstile.acquired_passed_by, hzero.2.2.1, Nat.zero_add]

/-- A turnstile before a source changes nothing about calls. Made one after the other, with every
answer at hand, they come to the same and leave it empty. With answers that take any time, several
questions of a call open at once and any number of calls under way, each call returns what it may
return without the turnstile, which includes what it comes to with every answer at hand, and none
waits for itself or for ever. -/
theorem turnstile_is_transparent (source : Source Id) (network : Network) {capacity : Nat}
    (hc : 1 ≤ capacity) :
    (∃ start : Turnstile Nat, Turnstile.new capacity = .ok start ∧
      ∀ calls, ∃ outcomes after,
        Transparent network source capacity start calls outcomes after) ∧
    (∀ call, Returns network source call ((call.lookup network).outcome source)) ∧
    ∃ start : Entrance (Nat × Spot), Entrance.new capacity = .ok start ∧
      ∀ c, Crowd.Gathered network source start c →
        Crowd.Unhindered network source capacity c := by
  obtain ⟨start, hnew⟩ := Turnstile.exists_new (ι := Nat) hc
  obtain ⟨gate, hgate⟩ := Entrance.exists_new (ι := Nat × Spot) hc
  refine ⟨⟨start, hnew, fun calls => exists_transparent hc hnew network source calls⟩,
    returns_outcome network source, gate, hgate, ?_⟩
  intro c h
  exact h.unhindered hc hgate

/-- Tables that know the last height and an unconfirmed transaction that cannot be had. -/
def sparseTable : Table where
  tip := some (.ok 6)
  transactionBytes := [(Hash256.zero, .error (.notFound (.stated "pruned")))]
  locations := [(Hash256.zero, .ok ⟨none, none⟩)]
  blockBytes := []
  blockFacts := []
  blocksAt := []

/-- Two blocks are asked for side by side and found missing; the first to be missed ends the call,
and the question for the other leaves its place. -/
theorem turnstile_is_transparent_two_places :
    1 ≤ 2 ∧
    (∃ start : Turnstile Nat, Turnstile.new 2 = .ok start ∧ ∃ outcomes after,
      Transparent .regtest sparseTable.source 2 start
        [.status, .transaction Hash256.zero, .block (.height 7), .block (.height 3)]
        outcomes after ∧
      after.acquired = 5) ∧
    ∃ start : Entrance (Nat × Spot), Entrance.new 2 = .ok start ∧ ∃ c,
      Crowd.Gathered .regtest sparseTable.source start c ∧
      Crowd.Unhindered .regtest sparseTable.source 2 c ∧
      c.gate.counters = (0, 2, 3, 3) ∧
      c.jobs 0 = some ⟨.summaries 0 2, .done (.error (.notFound (.entry "heights" "0")))⟩ := by
  obtain ⟨⟨start, hnew, hcalls⟩, -, gate, hgate, hcrowd⟩ :=
    turnstile_is_transparent sparseTable.source .regtest (by decide : 1 ≤ 2)
  obtain ⟨outcomes, after, htransparent⟩ :=
    hcalls [.status, .transaction Hash256.zero, .block (.height 7), .block (.height 3)]
  refine ⟨by decide, ⟨start, hnew, outcomes, after, htransparent,
    htransparent.acquired_eq.trans rfl⟩, gate, hgate, ?_⟩
  cases hgate
  let call : Call := .summaries 0 2
  let first : Spot := [.left]
  let second : Spot := [.right, .left]
  -- the entrance with two places while nobody waits
  let gate (held : List (Nat × Spot)) (peak acquired released : Nat) : Entrance (Nat × Spot) :=
    ⟨⟨2, held, [], held.length, peak, acquired, released⟩, []⟩
  have h₀ : Crowd.Gathered .regtest sparseTable.source (gate [] 0 0 0) ⟨gate [] 0 0 0, _⟩ :=
    .refl
  have h₁ : Crowd.Gathered .regtest sparseTable.source (gate [] 0 0 0) ⟨gate [] 0 0 0, _⟩ :=
    h₀.tail (.begin 0 call rfl)
  have h₂ : Crowd.Gathered .regtest sparseTable.source (gate [] 0 0 0)
      ⟨gate [(0, [])] 1 1 0, _⟩ :=
    h₁.tail (.advance (.come 0 [] rfl rfl (by decide)))
  have h₃ : Crowd.Gathered .regtest sparseTable.source (gate [] 0 0 0) ⟨gate [] 1 1 1, _⟩ :=
    h₂.tail (.advance (.answer 0 [] rfl (by decide) rfl))
  have h₄ : Crowd.Gathered .regtest sparseTable.source (gate [] 0 0 0)
      ⟨gate [(0, first)] 1 2 1, _⟩ :=
    h₃.tail (.advance (.come 0 first rfl rfl (by decide)))
  have h₅ : Crowd.Gathered .regtest sparseTable.source (gate [] 0 0 0)
      ⟨gate [(0, first), (0, second)] 2 3 1, _⟩ :=
    h₄.tail (.advance (.come 0 second rfl rfl (by decide)))
  have h₆ : Crowd.Gathered .regtest sparseTable.source (gate [] 0 0 0)
      ⟨gate [(0, second)] 2 3 2, _⟩ :=
    h₅.tail (.advance (.answer 0 first rfl (by decide) rfl))
  -- the first block is missed, so the question for the second is dropped where it stands
  have hleaving (c : Crowd) (stays : Spot → Prop) (hcallers : c.gate.callers = [(0, second)])
      (hstays : ∀ spot, ¬ stays spot) : c.Leaving 0 stays [(0, second)] := by
    refine ⟨List.nodup_singleton _, fun x => ?_⟩
    rw [hcallers, List.mem_singleton]
    exact ⟨fun hx => ⟨hx, hx ▸ rfl, hstays x.2⟩, fun hx => hx.1⟩
  have h₇ : Crowd.Gathered .regtest sparseTable.source (gate [] 0 0 0) ⟨gate [] 2 3 3, _⟩ :=
    h₆.tail (.advance (.settle 0 [] rfl rfl (hleaving _ _ rfl fun _ hopen => hopen rfl)))
  exact ⟨_, h₇, hcrowd _ h₇, rfl, rfl⟩

end Explorer
end ChainLens
