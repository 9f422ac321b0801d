import ChainLens.Proofs.Turnstile.Counters
import Mathlib.Data.List.Nodup
import Mathlib.Logic.ExistsUnique
import Mathlib.Tactic.Tauto

/-!
First come, first served. When every caller has a name of his own, each stands in the queue, inside
or away, gets in at most once and in the order of coming, and a place is free only when nobody
waits.
-/

namespace ChainLens.Turnstile

variable {ι : Type}

def Move.newcomer? : Move ι → Option ι
  | .come id => some id
  | .go _ => none

def arrivals (moves : List (Move ι)) : List ι := moves.filterMap Move.newcomer?

theorem arrivals_concat_come (moves : List (Move ι)) (id : ι) :
    arrivals (moves ++ [.come id]) = arrivals moves ++ [id] := by
  simp [arrivals, Move.newcomer?]

theorem arrivals_concat_go (moves : List (Move ι)) (id : ι) :
    arrivals (moves ++ [.go id]) = arrivals moves := by
  simp [arrivals, Move.newcomer?]

theorem arrivals_mono {past moves : List (Move ι)} (h : past <+: moves) :
    arrivals past <+: arrivals moves := by
  obtain ⟨later, rfl⟩ := h
  rw [arrivals, arrivals, List.filterMap_append]
  exact List.prefix_append ..

def Gone (moves : List (Move ι)) (id : ι) : Prop :=
  ∃ past, past ++ [.go id] <+: moves ∧ id ∈ arrivals past

def Before (moves : List (Move ι)) (a b : ι) : Prop :=
  ∃ past, past ++ [.come b] <+: moves ∧ a ∈ arrivals past

def callers (t : Turnstile ι) : List ι := t.held ++ t.waiting

section
variable [DecidableEq ι] (start : Turnstile ι) (moves : List (Move ι)) (id : ι)

def BeenInside : Prop := ∃ past, past <+: moves ∧ id ∈ (start.run past).held

def Withdrew : Prop := ∃ past, past ++ [.go id] <+: moves ∧ id ∈ (start.run past).waiting

def Admits (past : List (Move ι)) (m : Move ι) : Prop :=
  id ∉ (start.run past).held ∧ id ∈ (start.run (past ++ [m])).held

end

/-- Everybody who came is counted once he is inside, as long as nobody gives up in the queue. -/
theorem acquired_run [DecidableEq ι] {start : Turnstile ι} (h : start.Sound) {moves : List (Move ι)}
    (hstay : ∀ id, ¬ Withdrew start moves id) :
    (start.run moves).acquired + (start.run moves).waiting.length =
      start.acquired + start.waiting.length + (arrivals moves).length := by
  induction moves using List.reverseRecOn with
  | nil => rfl
  | append_singleton moves m ih =>
    have hpast : ∀ id, ¬ Withdrew start moves id := by
      rintro id ⟨past, hprefix, hwaiting⟩
      exact hstay id ⟨past, hprefix.trans (List.prefix_append ..), hwaiting⟩
    have hbefore := ih hpast
    have hpassage := (h.run moves).passage m
    rw [run_concat]
    generalize hafter : (start.run moves).move m = after at hpassage
    -- whoever came is inside, was inside, or waits: nobody gives up waiting
    cases hpassage with
    | admitted id room nobody =>
      rw [nobody] at hbefore
      simp only [arrivals_concat_come, enter, nobody, List.length_append, List.length_singleton,
        List.length_nil] at hbefore ⊢
      omega
    | queued id full =>
      simp only [arrivals_concat_come, List.length_append, List.length_singleton]
      omega
    | left id inside nobody =>
      rw [arrivals_concat_go]
      exact hbefore
    | replaced id next rest inside queue full =>
      rw [queue, List.length_cons] at hbefore
      simp only [arrivals_concat_go, enter, leave]
      omega
    | withdrawn id outside =>
      have habsent : id ∉ (start.run moves).waiting :=
        fun hwaiting => hstay id ⟨moves, List.prefix_refl _, hwaiting⟩
      simp only [arrivals_concat_go, List.erase_of_not_mem habsent]
      exact hbefore

inductive Place
  | queue
  | inside
  | away

def Stands [DecidableEq ι] (start : Turnstile ι) (moves : List (Move ι)) (id : ι) : Place → Prop
  | .queue => id ∈ (start.run moves).waiting
  | .inside => id ∈ (start.run moves).held
  | .away => Gone moves id

/-- What happened with the last of some moves or earlier. -/
theorem exists_past_concat {P : List (Move ι) → Prop} {moves : List (Move ι)} {m n : Move ι} :
    (∃ past, past ++ [n] <+: moves ++ [m] ∧ P past) ↔
      (n = m ∧ P moves) ∨ ∃ past, past ++ [n] <+: moves ∧ P past := by
  constructor
  · rintro ⟨past, hpast, hp⟩
    rcases List.prefix_concat_iff.mp hpast with heq | hearlier
    · obtain ⟨rfl, hn⟩ := List.append_inj' heq rfl
      exact .inl ⟨List.singleton_inj.mp hn, hp⟩
    · exact .inr ⟨past, hearlier, hp⟩
  · rintro (⟨rfl, hp⟩ | ⟨past, hpast, hp⟩)
    · exact ⟨moves, List.prefix_refl _, hp⟩
    · exact ⟨past, hpast.trans (List.prefix_append ..), hp⟩

theorem gone_concat_come {moves : List (Move ι)} {id x : ι} :
    Gone (moves ++ [.come id]) x ↔ Gone moves x := by
  rw [Gone, exists_past_concat]
  constructor
  · rintro (⟨h, -⟩ | h)
    · cases h
    · exact h
  · exact .inr

theorem gone_concat_go {moves : List (Move ι)} {id x : ι} :
    Gone (moves ++ [.go id]) x ↔ (x = id ∧ x ∈ arrivals moves) ∨ Gone moves x := by
  rw [Gone, exists_past_concat, Move.go.injEq]
  rfl

theorem Gone.mem_arrivals {moves : List (Move ι)} {id : ι} (h : Gone moves id) :
    id ∈ arrivals moves := by
  obtain ⟨past, hpast, hid⟩ := h
  exact (arrivals_mono ((List.prefix_append ..).trans hpast)).subset hid

theorem Gone.mono {past moves : List (Move ι)} {id : ι} (h : past <+: moves) (hg : Gone past id) :
    Gone moves id := by
  obtain ⟨earlier, hearlier, hid⟩ := hg
  exact ⟨earlier, hearlier.trans h, hid⟩

variable {start t t' : Turnstile ι} {moves past : List (Move ι)} {m : Move ι}

/-- The state of the queue after moves in which every caller comes once. -/
structure Orderly (moves : List (Move ι)) (t : Turnstile ι) : Prop where
  sound : t.Sound
  nodup : t.callers.Nodup
  mem_callers : ∀ id, id ∈ t.callers ↔ id ∈ arrivals moves ∧ ¬ Gone moves id
  order : t.waiting.Sublist (arrivals moves)

theorem Orderly.mem_arrivals_of_held (h : Orderly moves t) {id : ι} (hid : id ∈ t.held) :
    id ∈ arrivals moves :=
  ((h.mem_callers id).mp (List.mem_append_left _ hid)).1

/-- Who came and has not gone is inside or in the queue. -/
theorem Orderly.present (h : Orderly moves t) {id : ι} (hid : id ∈ arrivals moves)
    (hstay : ¬ Gone moves id) :
    id ∈ t.held ∨ id ∈ t.waiting :=
  List.mem_append.mp ((h.mem_callers id).mpr ⟨hid, hstay⟩)

theorem Orderly.not_gone (h : Orderly moves t) {id : ι} (hid : id ∈ t.callers) : ¬ Gone moves id :=
  ((h.mem_callers id).mp hid).2

theorem Orderly.not_mem_waiting (h : Orderly moves t) {id : ι} (hid : id ∈ t.held) :
    id ∉ t.waiting :=
  fun hw => List.disjoint_of_nodup_append h.nodup hid hw

theorem prefix_of_concat {later : List (Move ι)} (h : past ++ [m] <+: later) : past <+: later :=
  (List.prefix_append ..).trans h

/-- Of two stages of the same moves one comes first. -/
theorem past_or_past {other : List (Move ι)} (h : past ++ [m] <+: moves) (h' : other <+: moves) :
    past ++ [m] <+: other ∨ other <+: past := by
  rcases List.prefix_or_prefix_of_prefix h h' with hle | hle
  · exact .inl hle
  · rcases List.prefix_concat_iff.mp hle with heq | hle
    · exact .inl (heq ▸ List.prefix_refl _)
    · exact .inr hle

theorem fresh_past (fresh : (arrivals moves).Nodup) (h : past <+: moves) : (arrivals past).Nodup :=
  fresh.sublist (arrivals_mono h).sublist

/-- Whoever comes has not come before. -/
theorem not_mem_arrivals_of_come {id : ι} (fresh : (arrivals moves).Nodup)
    (hcome : past ++ [.come id] <+: moves) :
    id ∉ arrivals past := by
  have hnodup : (arrivals (past ++ [.come id])).Nodup := fresh_past fresh hcome
  rw [arrivals_concat_come] at hnodup
  intro hid
  exact List.disjoint_of_nodup_append hnodup hid (List.mem_singleton_self id)

/-- Who came before another had come when he was there. -/
theorem Before.of_mem {a b : ι} (h : Before moves a b) (fresh : (arrivals moves).Nodup)
    (hpast : past <+: moves)
    (hb : b ∈ arrivals past) : Before past a b := by
  obtain ⟨earlier, hearlier, hcame⟩ := h
  rcases past_or_past hearlier hpast with hle | hle
  · exact ⟨earlier, hle, hcame⟩
  · exact absurd ((arrivals_mono hle).subset hb) (not_mem_arrivals_of_come fresh hearlier)

theorem Before.mem_arrivals {a b : ι} (h : Before (past ++ [m]) a b) : a ∈ arrivals past := by
  obtain ⟨earlier, hearlier, hcame⟩ := h
  rcases List.prefix_concat_iff.mp hearlier with heq | hle
  · exact (List.append_inj' heq rfl).1 ▸ hcame
  · exact (arrivals_mono (prefix_of_concat hle)).subset hcame

theorem Before.ne {a b : ι} (h : Before moves a b) (fresh : (arrivals moves).Nodup) : a ≠ b := by
  rintro rfl
  obtain ⟨earlier, hearlier, hcame⟩ := h
  exact not_mem_arrivals_of_come fresh hearlier hcame

variable [DecidableEq ι]

theorem Passage.callers_come {id : ι} (h : Passage t (.come id) t') :
    t'.callers = t.callers ++ [id] := by
  cases h with
  | admitted _ room nobody => simp only [callers, enter, nobody, List.append_nil]
  | queued _ full => simp only [callers, List.append_assoc]

/-- Whoever goes leaves the others in their order. -/
theorem Passage.callers_go {id : ι} (h : Passage t (.go id) t') :
    t'.callers = t.callers.erase id := by
  cases h with
  | left _ inside nobody => simp only [callers, leave, nobody, List.append_nil]
  | replaced _ next rest inside queue full =>
    simp only [callers, enter, leave, queue, List.erase_append_left _ inside, List.append_assoc,
      List.singleton_append]
  | withdrawn _ outside => simp only [callers, List.erase_append_right _ outside]

/-- Nobody gets into the queue but by coming. -/
theorem Passage.mem_waiting (h : Passage t m t') {x : ι} (hx : x ∈ t'.waiting) :
    x ∈ t.waiting ∨ m = .come x := by
  cases h with
  | admitted id room nobody => exact .inl hx
  | queued id full =>
    rcases List.mem_append.mp hx with hx | hx
    · exact .inl hx
    · exact .inr (congrArg Move.come (List.mem_singleton.mp hx).symm)
  | left id inside nobody => exact .inl hx
  | replaced id next rest inside queue full =>
    left
    rw [queue]
    exact List.mem_cons_of_mem next hx
  | withdrawn id outside => exact .inl (List.mem_of_mem_erase hx)

/-- Only the first in the queue gets in, or whoever comes while nobody waits. -/
theorem Passage.turn (h : Passage t m t') {id : ι} (hout : id ∉ t.held) (hin : id ∈ t'.held) :
    t.waiting = [] ∨ ∃ rest, t.waiting = id :: rest := by
  cases h with
  | admitted _ room nobody => exact .inl nobody
  | queued _ full => exact absurd hin hout
  | left _ inside nobody => exact .inl nobody
  | replaced left next rest inside queue full =>
    have hcases : id ∈ t.held.erase left ∨ id = next := by
      simpa only [enter, leave, List.mem_append, List.mem_singleton] using hin
    rcases hcases with hkept | rfl
    · exact absurd (List.mem_of_mem_erase hkept) hout
    · exact .inr ⟨rest, queue⟩
  | withdrawn _ outside => exact absurd hin hout

/-- A move keeps the queue in the order in which callers came. -/
theorem Orderly.of_passage (h : Orderly moves t) (fresh : (arrivals (moves ++ [m])).Nodup)
    (hp : Passage t m t') :
    Orderly (moves ++ [m]) t' := by
  have hsound : t'.Sound := h.sound.of_passage hp
  cases m with
  | come id =>
    have hnew : id ∉ arrivals moves := not_mem_arrivals_of_come fresh (List.prefix_refl _)
    have hcallers : t'.callers = t.callers ++ [id] := hp.callers_come
    refine ⟨hsound, ?_, ?_, ?_⟩
    · have hout : id ∉ t.callers := fun hid => hnew ((h.mem_callers id).mp hid).1
      rw [hcallers, ← List.concat_eq_append]
      exact h.nodup.concat hout
    · intro x
      have hx : x = id → ¬ Gone moves x := by
        rintro rfl hgone
        exact hnew hgone.mem_arrivals
      rw [hcallers, arrivals_concat_come, gone_concat_come, List.mem_append, List.mem_append,
        List.mem_singleton, h.mem_callers]
      tauto
    · -- the newcomer joins the end of the queue, or finds it empty
      rw [arrivals_concat_come]
      cases hp with
      | admitted _ room nobody =>
        change t.waiting.Sublist _
        rw [nobody]
        exact List.nil_sublist _
      | queued _ full => exact h.order.append (List.Sublist.refl _)
  | go id =>
    have hcallers : t'.callers = t.callers.erase id := hp.callers_go
    refine ⟨hsound, ?_, ?_, ?_⟩
    · rw [hcallers]
      exact h.nodup.erase id
    · intro x
      rw [hcallers, h.nodup.mem_erase_iff, arrivals_concat_go, gone_concat_go, h.mem_callers]
      tauto
    · -- the queue loses its head, one in the middle, or nobody
      rw [arrivals_concat_go]
      cases hp with
      | left _ inside nobody => exact h.order
      | replaced _ next rest inside queue full =>
        exact (List.sublist_cons_self next rest).trans (queue ▸ h.order)
      | withdrawn _ outside => exact List.erase_sublist.trans h.order

/-- After any moves the queue is in the order in which callers came. -/
theorem orderly_run {capacity : Nat} (hnew : new capacity = .ok start)
    (fresh : (arrivals moves).Nodup) :
    Orderly moves (start.run moves) := by
  induction moves using List.reverseRecOn with
  | nil =>
    obtain ⟨hsound, -, hheld, hwaiting, -⟩ := sound_new hnew
    have hcallers : start.callers = [] := by rw [callers, hheld, hwaiting, List.append_nil]
    refine ⟨hsound, ?_, ?_, ?_⟩
    · rw [run_nil, hcallers]
      exact List.nodup_nil
    · intro id
      rw [run_nil, hcallers]
      exact ⟨fun hid => absurd hid List.not_mem_nil, fun hid => absurd hid.1 List.not_mem_nil⟩
    · rw [run_nil, hwaiting]
      exact List.nil_sublist _
  | append_singleton moves m ih =>
    have hpast : Orderly moves (start.run moves) := ih (fresh_past fresh (List.prefix_append ..))
    rw [run_concat]
    exact hpast.of_passage fresh (hpast.sound.passage m)

theorem orderly_past {capacity : Nat} (hnew : new capacity = .ok start)
    (fresh : (arrivals moves).Nodup)
    (hpast : past <+: moves) : Orderly past (start.run past) :=
  orderly_run hnew (fresh_past fresh hpast)

/-- Who has been inside by some move has been so afterwards. -/
theorem BeenInside.mono {id : ι} (h : past <+: moves) (hin : BeenInside start past id) :
    BeenInside start moves id := by
  obtain ⟨earlier, hearlier, hid⟩ := hin
  exact ⟨earlier, hearlier.trans h, hid⟩

section
variable {capacity : Nat} (hnew : new capacity = .ok start) (fresh : (arrivals moves).Nodup)
include hnew fresh

/-- Nobody who has been inside waits again. -/
theorem not_waiting_of_been_inside {id : ι} (hin : BeenInside start moves id) :
    id ∉ (start.run moves).waiting := by
  induction moves using List.reverseRecOn with
  | nil =>
    rw [run_nil, (sound_new hnew).2.2.2.1]
    exact List.not_mem_nil
  | append_singleton moves m ih =>
    have hmoves : Orderly moves (start.run moves) := orderly_past hnew fresh (List.prefix_append ..)
    obtain ⟨past, hpast, hid⟩ := hin
    rcases List.prefix_concat_iff.mp hpast with rfl | hearlier
    · exact (orderly_run hnew fresh).not_mem_waiting hid
    · intro hw
      have hout : id ∉ (start.run moves).waiting :=
        ih (fresh_past fresh (List.prefix_append ..)) ⟨past, hearlier, hid⟩
      rw [run_concat] at hw
      rcases (hmoves.sound.passage m).mem_waiting hw with hw | rfl
      · exact hout hw
      · -- a caller who comes now cannot have been inside before
        have hthen : Orderly past (start.run past) :=
          orderly_past hnew fresh (hearlier.trans (List.prefix_append ..))
        have hcame : id ∈ arrivals moves :=
          (arrivals_mono hearlier).subset (hthen.mem_arrivals_of_held hid)
        exact not_mem_arrivals_of_come fresh (List.prefix_refl _) hcame

/-- Who has gone has been inside or gave up. -/
theorem been_inside_or_withdrew {id : ι} (hgone : Gone moves id) :
    BeenInside start moves id ∨ Withdrew start moves id := by
  induction moves using List.reverseRecOn with
  | nil =>
    obtain ⟨past, hpast, -⟩ := hgone
    exact absurd (List.prefix_nil.mp hpast) (by simp)
  | append_singleton moves m ih =>
    have hmoves : Orderly moves (start.run moves) := orderly_past hnew fresh (List.prefix_append ..)
    have earlier (h : Gone moves id) : BeenInside start (moves ++ [m]) id ∨
        Withdrew start (moves ++ [m]) id := by
      rcases ih (fresh_past fresh (List.prefix_append ..)) h with hin | ⟨past, hpast, hid⟩
      · exact .inl (hin.mono (List.prefix_append ..))
      · exact .inr ⟨past, hpast.trans (List.prefix_append ..), hid⟩
    -- otherwise the last move is his going, from where he then was
    by_cases hbefore : Gone moves id
    · exact earlier hbefore
    · rcases exists_past_concat.mp hgone with ⟨hm, hid⟩ | hgone
      · rcases hmoves.present hid hbefore with hheld | hwaiting
        · exact .inl ⟨moves, List.prefix_append .., hheld⟩
        · exact .inr ⟨moves, hm ▸ List.prefix_refl _, hwaiting⟩
      · exact absurd hgone hbefore

/-- Who came is inside, waits, or has gone, and only one of these. -/
theorem exists_unique_place {id : ι} (hid : id ∈ arrivals moves) :
    ∃! place, Stands start moves id place := by
  have h : Orderly moves (start.run moves) := orderly_run hnew fresh
  -- away excludes the other two, and those exclude each other by the invariant
  by_cases hgone : Gone moves id
  · refine ⟨.away, hgone, ?_⟩
    have hout : id ∉ (start.run moves).callers := fun hc => h.not_gone hc hgone
    intro place hplace
    cases place with
    | queue => exact absurd (List.mem_append_right _ hplace) hout
    | inside => exact absurd (List.mem_append_left _ hplace) hout
    | away => rfl
  · rcases h.present hid hgone with hheld | hwaiting
    · refine ⟨.inside, hheld, ?_⟩
      intro place hplace
      cases place with
      | queue => exact absurd hplace (h.not_mem_waiting hheld)
      | inside => rfl
      | away => exact absurd hplace hgone
    · refine ⟨.queue, hwaiting, ?_⟩
      intro place hplace
      cases place with
      | queue => rfl
      | inside => exact absurd hwaiting (h.not_mem_waiting hplace)
      | away => exact absurd hplace hgone

/-- Who is let in once is not let in by a later move. -/
theorem not_admits_later {id : ι} {past' : List (Move ι)} {m' : Move ι}
    (hlater : past ++ [m] <+: past')
    (hpast' : past' ++ [m'] <+: moves) (hin : Admits start id past m) :
    ¬ Admits start id past' m' := by
  rintro ⟨hout, hagain⟩
  have hbefore : Orderly past' (start.run past') :=
    orderly_past hnew fresh (prefix_of_concat hpast')
  have hafter : Orderly (past' ++ [m']) (start.run (past' ++ [m'])) :=
    orderly_past hnew fresh hpast'
  have hbeen : BeenInside start past' id := ⟨past ++ [m], hlater, hin.2⟩
  have hcame : id ∈ arrivals past' := by
    have h : Orderly (past ++ [m]) (start.run (past ++ [m])) :=
      orderly_past hnew fresh (hlater.trans (prefix_of_concat hpast'))
    exact (arrivals_mono hlater).subset (h.mem_arrivals_of_held hin.2)
  -- he was outside again by then, and since he does not wait a second time he had gone for good
  have hgone : Gone past' id := by
    by_contra hstay
    rcases hbefore.present hcame hstay with hheld | hwaiting
    · exact hout hheld
    · exact not_waiting_of_been_inside hnew (fresh_past fresh (prefix_of_concat hpast'))
        hbeen hwaiting
  exact hafter.not_gone (List.mem_append_left _ hagain) (hgone.mono (List.prefix_append ..))

/-- Who gives up in the queue is never inside, before or after. -/
theorem not_been_inside_of_withdrew {id : ι} (h : Withdrew start moves id) :
    ¬ BeenInside start moves id := by
  obtain ⟨past, hpast, hwaiting⟩ := h
  rintro ⟨other, hother, hheld⟩
  have hthen : Orderly past (start.run past) := orderly_past hnew fresh (prefix_of_concat hpast)
  rcases past_or_past hpast hother with hle | hle
  · -- inside after giving up
    have hgone : Gone other id := ⟨past, hle, hthen.order.subset hwaiting⟩
    exact (orderly_past hnew fresh hother).not_gone (List.mem_append_left _ hheld) hgone
  · -- in the queue after having been inside
    exact not_waiting_of_been_inside hnew (fresh_past fresh (prefix_of_concat hpast))
      ⟨other, hle, hheld⟩ hwaiting

/-- The first in the queue came before all others in it. -/
theorem not_before_first {a b : ι} {rest : List ι} (hqueue : (start.run moves).waiting = b :: rest)
    (ha : a ∈ rest) :
    ¬ Before moves a b := by
  rintro ⟨past, hpast, hcame⟩
  have hfirst : b ∉ arrivals past := not_mem_arrivals_of_come fresh hpast
  obtain ⟨later, hlater⟩ := arrivals_mono hpast
  rw [arrivals_concat_come, List.append_assoc, List.singleton_append] at hlater
  have horder : (b :: rest).Sublist (arrivals past ++ b :: later) := by
    rw [hlater, ← hqueue]
    exact (orderly_run hnew fresh).order
  -- the queue is read off the arrivals from where its head came
  obtain ⟨l₁, l₂, hsplit, h₁, h₂⟩ := List.sublist_append_iff.mp horder
  cases l₁ with
  | cons c l₁ =>
    obtain rfl : b = c := (List.cons.inj hsplit).1
    exact hfirst (h₁.subset List.mem_cons_self)
  | nil =>
    obtain rfl : b :: rest = l₂ := hsplit
    have hlate : a ∈ later := (List.cons_sublist_cons.mp h₂).subset ha
    rw [← hlater] at fresh
    exact List.disjoint_of_nodup_append fresh hcame (List.mem_cons_of_mem b hlate)

/-- Who came earlier and did not give up has been inside when the later one gets in. -/
theorem been_inside_of_before {a b : ι} (hab : Before moves a b) (ha : ¬ Withdrew start moves a)
    (hpast : past ++ [m] <+: moves) (hb : Admits start b past m) : BeenInside start past a := by
  obtain ⟨hout, hin⟩ := hb
  have hthen : Orderly past (start.run past) := orderly_past hnew fresh (prefix_of_concat hpast)
  have hafter : Orderly (past ++ [m]) (start.run (past ++ [m])) := orderly_past hnew fresh hpast
  have hcame : a ∈ arrivals past :=
    (hab.of_mem fresh hpast (hafter.mem_arrivals_of_held hin)).mem_arrivals
  have fresh' : (arrivals past).Nodup := fresh_past fresh (prefix_of_concat hpast)
  by_contra hnever
  have hstay : ¬ Gone past a := by
    intro hgone
    rcases been_inside_or_withdrew hnew fresh' hgone with hbeen | ⟨stage, hstage, hid⟩
    · exact hnever hbeen
    · exact ha ⟨stage, hstage.trans (prefix_of_concat hpast), hid⟩
  rcases hthen.present hcame hstay with hheld | hwaiting
  · exact hnever ⟨past, List.prefix_refl _, hheld⟩
  · -- the one who gets in leaves nobody waiting who came before
    rw [run_concat] at hin
    rcases (hthen.sound.passage m).turn hout hin with hnobody | ⟨rest, hqueue⟩
    · rw [hnobody] at hwaiting
      exact absurd hwaiting List.not_mem_nil
    · have hbcame : b ∈ arrivals past := hthen.order.subset (hqueue ▸ List.mem_cons_self)
      have hbefore : Before past a b := hab.of_mem fresh (prefix_of_concat hpast) hbcame
      have hrest : a ∈ rest := by
        rw [hqueue] at hwaiting
        exact (List.mem_cons.mp hwaiting).resolve_left (hbefore.ne fresh')
      exact not_before_first hnew fresh' hqueue hrest hbefore

end

/-- First come, first served, in moves from an empty turnstile. -/
structure Fair (capacity : Nat) (start : Turnstile ι) (moves : List (Move ι)) : Prop where
  /-- Nobody waits while a place is free. -/
  full : (start.run moves).waiting ≠ [] → (start.run moves).held.length = capacity
  nodup : (start.run moves).callers.Nodup
  place : ∀ id ∈ arrivals moves, ∃! place, Stands start moves id place
  once : ∀ id past past' m m', past ++ [m] <+: past' → past' ++ [m'] <+: moves →
    Admits start id past m → ¬ Admits start id past' m'
  withdrawn : ∀ id, Withdrew start moves id → ¬ BeenInside start moves id
  /-- Who gets in leaves nobody outside who came before, unless that one gave up. -/
  in_order : ∀ a b, Before moves a b → ¬ Withdrew start moves a →
    ∀ past m, past ++ [m] <+: moves → Admits start b past m → BeenInside start past a

/-- When every caller comes once, a place is free only if nobody waits; every caller is at one
place; nobody gets in twice, or after giving up in the queue; and of two callers the earlier gets in
earlier, unless he gives up. -/
theorem queue_is_fair {capacity : Nat} (hc : 1 ≤ capacity) {moves : List (Move ι)}
    (fresh : (arrivals moves).Nodup) :
    ∃ start : Turnstile ι, new capacity = .ok start ∧ Fair capacity start moves := by
  obtain ⟨start, hnew⟩ := exists_new (ι := ι) hc
  obtain ⟨hsound, hcapacity, -⟩ := sound_new hnew
  have hmoves : Orderly moves (start.run moves) := orderly_run hnew fresh
  refine ⟨start, hnew, ?_, hmoves.nodup, ?_, ?_, ?_, ?_⟩
  · intro hwaiting
    rw [hmoves.sound.full hwaiting, (hsound.run_counters moves).2.2.2, hcapacity]
  · intro id hid
    exact exists_unique_place hnew fresh hid
  · intro id past past' m m' hlater hpast' hin
    exact not_admits_later hnew fresh hlater hpast' hin
  · intro id hid
    exact not_been_inside_of_withdrew hnew fresh hid
  · intro a b hab ha past m hpast hb
    exact been_inside_of_before hnew fresh hab ha hpast hb

/-- Five callers, of whom the fourth gives up in the middle of the queue before the first goes. -/
def queueOfFive : List (Move Nat) := [.come 1, .come 2, .come 3, .come 4, .come 5, .go 4, .go 1]

/-- Five callers at two places, one of whom gives up in the queue. -/
theorem queue_is_fair_five : 1 ≤ 2 ∧ (arrivals queueOfFive).Nodup ∧
    ∃ start : Turnstile Nat, new 2 = .ok start ∧ Fair 2 start queueOfFive ∧
      (start.run queueOfFive).held = [2, 3] ∧ (start.run queueOfFive).waiting = [5] := by
  have hc : 1 ≤ 2 := by decide
  have fresh : (arrivals queueOfFive).Nodup := by decide
  obtain ⟨start, hnew, hfair⟩ := queue_is_fair hc fresh
  refine ⟨hc, fresh, start, hnew, hfair, ?_⟩
  cases hnew
  exact ⟨rfl, rfl⟩

end ChainLens.Turnstile
