import ChainLens.Plan
import ChainLens.Proofs.Source.Outcome

/-!
The order in which the questions of a plan are answered does not matter for what it comes to,
except for which of several failures is the failure of the whole. A plan comes to an end, and
until then there is something that can happen to it.
-/

namespace ChainLens.Plan

open Lookup

variable {α β γ : Type} {source : Source Id}

def outcome (source : Source Id) (plan : Plan α) : Except Failure α := plan.inOrder.outcome source

theorem outcome_done (result : Except Failure α) : (done result).outcome source = result := rfl

theorem outcome_lift_bind (d : Dialogue Query.Reply α) (f : α → Lookup β) :
    Lookup.outcome source (ExceptT.lift d >>= f) =
      (f (d.run source.answer : Id α)).outcome source := by
  rw [Lookup.outcome, Lookup.runWith, ExceptT.run_bind_lift, Dialogue.bind_eq, Dialogue.run_bind]
  rfl

/-- Parts that are awaited are carried out one after the other, whatever they come to. -/
theorem outcome_join (left : Plan α) (right : Plan β)
    (next : Except Failure α → Except Failure β → Plan γ) :
    (join left right next).outcome source =
      (next (left.outcome source) (right.outcome source)).outcome source := by
  simp only [outcome, inOrder, outcome_lift_bind]
  rfl

/-- The second of two parts counts only once the first has succeeded. -/
theorem outcome_try_join (left : Plan α) (right : Plan β) (next : α → β → Plan γ) :
    (tryJoin left right next).outcome source =
      (left.outcome source >>= fun a => right.outcome source >>= fun b =>
        (next a b).outcome source) := by
  simp only [outcome, inOrder, outcome_bind]

inductive Firm : {α : Type} → Plan α → Prop
  | done {α : Type} (result : Except Failure α) : Firm (done result)
  | ask {α : Type} {q : Query} {next : q.Reply → Plan α} (hnext : ∀ reply, Firm (next reply)) :
    Firm (ask q next)
  | join {α β γ : Type} {left : Plan α} {right : Plan β}
      {next : Except Failure α → Except Failure β → Plan γ} (hleft : Firm left)
      (hright : Firm right) (hnext : ∀ a b, Firm (next a b)) :
    Firm (join left right next)

/-- A plan that drops nothing within parts that are all awaited. What follows such parts may look
at their failures, so these have to be settled. -/
inductive Steady : {α : Type} → Plan α → Prop
  | done {α : Type} (result : Except Failure α) : Steady (done result)
  | ask {α : Type} {q : Query} {next : q.Reply → Plan α} (hnext : ∀ reply, Steady (next reply)) :
    Steady (ask q next)
  | join {α β γ : Type} {left : Plan α} {right : Plan β}
      {next : Except Failure α → Except Failure β → Plan γ} (hleft : Firm left)
      (hright : Firm right) (hnext : ∀ a b, Steady (next a b)) :
    Steady (join left right next)
  | tryJoin {α β γ : Type} {left : Plan α} {right : Plan β} {next : α → β → Plan γ}
      (hleft : Steady left) (hright : Steady right) (hnext : ∀ a b, Steady (next a b)) :
    Steady (tryJoin left right next)

/-- Where nothing is dropped, nothing is dropped that is awaited. -/
theorem Firm.steady {plan : Plan α} (h : plan.Firm) : plan.Steady := by
  induction h with
  | done result => exact .done result
  | ask _ ih => exact .ask ih
  | join hleft hright _ _ _ ih => exact .join hleft hright ih

/-- What can happen to a plan: an open question is answered, or two parts are joined. -/
inductive Step (source : Source Id) : {α : Type} → Plan α → Plan α → Prop
  | answer {α : Type} (q : Query) (next : q.Reply → Plan α) :
    Step source (ask q next) (next (source.answer q))
  | join {α β γ : Type} (a : Except Failure α) (b : Except Failure β)
      (next : Except Failure α → Except Failure β → Plan γ) :
    Step source (join (done a) (done b) next) (next a b)
  | tryJoin {α β γ : Type} (a : α) (b : β) (next : α → β → Plan γ) :
    Step source (tryJoin (done (.ok a)) (done (.ok b)) next) (next a b)
  | failLeft {α β γ : Type} (failure : Failure) (right : Plan β) (next : α → β → Plan γ) :
    Step source (tryJoin (done (.error failure)) right next) (done (.error failure))
  | failRight {α β γ : Type} (left : Plan α) (failure : Failure) (next : α → β → Plan γ) :
    Step source (tryJoin left (done (.error failure)) next) (done (.error failure))
  | joinLeft {α β γ : Type} {left left' : Plan α} (right : Plan β)
      (next : Except Failure α → Except Failure β → Plan γ) (h : Step source left left') :
    Step source (join left right next) (join left' right next)
  | joinRight {α β γ : Type} (left : Plan α) {right right' : Plan β}
      (next : Except Failure α → Except Failure β → Plan γ) (h : Step source right right') :
    Step source (join left right next) (join left right' next)
  | tryLeft {α β γ : Type} {left left' : Plan α} (right : Plan β) (next : α → β → Plan γ)
      (h : Step source left left') :
    Step source (tryJoin left right next) (tryJoin left' right next)
  | tryRight {α β γ : Type} (left : Plan α) {right right' : Plan β} (next : α → β → Plan γ)
      (h : Step source right right') :
    Step source (tryJoin left right next) (tryJoin left right' next)

theorem eq_done_of_result {plan : Plan α} {result : Except Failure α}
    (h : plan.result? = some result) : plan = done result := by
  cases plan with
  | done r => exact congrArg done (Option.some.inj h)
  | _ => cases h

/-- An answer is something that can happen to a plan. -/
theorem step_of_answer {plan after : Plan α} {spot : Spot}
    (h : plan.answer? source spot = some after) : Step source plan after := by
  induction plan generalizing spot with
  | done result => cases spot <;> cases h
  | ask q next =>
    cases spot with
    | nil => obtain rfl := Option.some.inj h; exact .answer q next
    | cons side spot => cases side <;> cases h
  | join left right next hl hr =>
    rcases spot with - | ⟨- | -, spot⟩
    · cases h
    · obtain ⟨left', hleft, rfl⟩ := Option.map_eq_some_iff.mp h
      exact .joinLeft right next (hl hleft)
    · obtain ⟨right', hright, rfl⟩ := Option.map_eq_some_iff.mp h
      exact .joinRight left next (hr hright)
  | tryJoin left right next hl hr =>
    rcases spot with - | ⟨- | -, spot⟩
    · cases h
    · obtain ⟨left', hleft, rfl⟩ := Option.map_eq_some_iff.mp h
      exact .tryLeft right next (hl hleft)
    · obtain ⟨right', hright, rfl⟩ := Option.map_eq_some_iff.mp h
      exact .tryRight left next (hr hright)

theorem step_of_settle {plan after : Plan α} {spot : Spot}
    (h : plan.settle? spot = some after) : Step source plan after := by
  induction plan generalizing spot with
  | done result => rcases spot with - | ⟨- | -, spot⟩ <;> cases h
  | ask q next => rcases spot with - | ⟨- | -, spot⟩ <;> cases h
  | join left right next hl hr =>
    rcases spot with - | ⟨- | -, spot⟩
    · simp only [settle?] at h
      split at h
      · rename_i a b ha hb
        obtain rfl := Option.some.inj h
        rw [eq_done_of_result ha, eq_done_of_result hb]
        exact .join a b next
      · cases h
    · obtain ⟨left', hleft, rfl⟩ := Option.map_eq_some_iff.mp h
      exact .joinLeft right next (hl hleft)
    · obtain ⟨right', hright, rfl⟩ := Option.map_eq_some_iff.mp h
      exact .joinRight left next (hr hright)
  | tryJoin left right next hl hr =>
    rcases spot with - | ⟨- | -, spot⟩
    -- a failed part ends the whole, whichever it is and wherever the other stands
    · simp only [settle?] at h
      split at h
      · rename_i failure ha
        obtain rfl := Option.some.inj h
        rw [eq_done_of_result ha]
        exact .failLeft failure right next
      · rename_i failure hb _
        obtain rfl := Option.some.inj h
        rw [eq_done_of_result hb]
        exact .failRight left failure next
      · rename_i a b ha hb
        obtain rfl := Option.some.inj h
        rw [eq_done_of_result ha, eq_done_of_result hb]
        exact .tryJoin a b next
      · cases h
    · obtain ⟨left', hleft, rfl⟩ := Option.map_eq_some_iff.mp h
      exact .tryLeft right next (hl hleft)
    · obtain ⟨right', hright, rfl⟩ := Option.map_eq_some_iff.mp h
      exact .tryRight left next (hr hright)

/-- Whatever happens to a plan that drops nothing, it comes to the same. -/
theorem Step.firm {plan after : Plan α} (h : Step source plan after) (hfirm : plan.Firm) :
    after.Firm ∧ after.outcome source = plan.outcome source := by
  induction h with
  | answer q next =>
    obtain - | hnext := hfirm
    exact ⟨hnext _, rfl⟩
  | join a b next =>
    obtain - | - | ⟨-, -, hnext⟩ := hfirm
    exact ⟨hnext a b, (outcome_join (done a) (done b) next).symm⟩
  | joinLeft right next _ ih =>
    obtain - | - | ⟨hleft, hright, hnext⟩ := hfirm
    obtain ⟨hleft', houtcome⟩ := ih hleft
    exact ⟨.join hleft' hright hnext, by rw [outcome_join, outcome_join, houtcome]⟩
  | joinRight left next _ ih =>
    obtain - | - | ⟨hleft, hright, hnext⟩ := hfirm
    obtain ⟨hright', houtcome⟩ := ih hright
    exact ⟨.join hleft hright' hnext, by rw [outcome_join, outcome_join, houtcome]⟩
  | _ => cases hfirm

theorem to_option_bind_congr {x y : Except Failure α} (f : α → Except Failure β)
    (h : x.toOption = y.toOption) : (x >>= f).toOption = (y >>= f).toOption := by
  cases x <;> cases y <;> cases h <;> rfl

theorem to_option_bind_congr_right (x : Except Failure α) {f g : α → Except Failure β}
    (h : ∀ a, (f a).toOption = (g a).toOption) : (x >>= f).toOption = (x >>= g).toOption := by
  cases x with
  | error failure => rfl
  | ok a => exact h a

/-- Whatever happens to a steady plan, it comes to the same success, or still to a failure. -/
theorem Step.steady {plan after : Plan α} (h : Step source plan after) (hsteady : plan.Steady) :
    after.Steady ∧ (after.outcome source).toOption = (plan.outcome source).toOption := by
  induction h with
  | answer q next =>
    obtain - | hnext := hsteady
    exact ⟨hnext _, rfl⟩
  | join a b next =>
    obtain - | - | ⟨-, -, hnext⟩ := hsteady
    have houtcome : (Plan.join (done a) (done b) next).outcome source =
        (next a b).outcome source := outcome_join ..
    exact ⟨hnext a b, congrArg Except.toOption houtcome.symm⟩
  | tryJoin a b next =>
    obtain - | - | - | ⟨-, -, hnext⟩ := hsteady
    have houtcome : (Plan.tryJoin (done (.ok a)) (done (.ok b)) next).outcome source =
        (next a b).outcome source := outcome_try_join ..
    exact ⟨hnext a b, congrArg Except.toOption houtcome.symm⟩
  | failLeft failure right next =>
    refine ⟨.done _, ?_⟩
    rw [outcome_try_join]
    rfl
  | failRight left failure next =>
    -- the whole fails, if not with this failure then with one of the other part
    refine ⟨.done _, ?_⟩
    rw [outcome_try_join]
    cases left.outcome source <;> rfl
  | joinLeft right next h _ =>
    obtain - | - | ⟨hleft, hright, hnext⟩ := hsteady
    obtain ⟨hleft', houtcome⟩ := h.firm hleft
    exact ⟨.join hleft' hright hnext, by rw [outcome_join, outcome_join, houtcome]⟩
  | joinRight left next h _ =>
    obtain - | - | ⟨hleft, hright, hnext⟩ := hsteady
    obtain ⟨hright', houtcome⟩ := h.firm hright
    exact ⟨.join hleft hright' hnext, by rw [outcome_join, outcome_join, houtcome]⟩
  | tryLeft right next _ ih =>
    obtain - | - | - | ⟨hleft, hright, hnext⟩ := hsteady
    obtain ⟨hleft', houtcome⟩ := ih hleft
    refine ⟨.tryJoin hleft' hright hnext, ?_⟩
    rw [outcome_try_join, outcome_try_join]
    exact to_option_bind_congr _ houtcome
  | tryRight left next _ ih =>
    obtain - | - | - | ⟨hleft, hright, hnext⟩ := hsteady
    obtain ⟨hright', houtcome⟩ := ih hright
    refine ⟨.tryJoin hleft hright' hnext, ?_⟩
    rw [outcome_try_join, outcome_try_join]
    exact to_option_bind_congr_right _ fun a => to_option_bind_congr _ houtcome

def length (source : Source Id) {α : Type} : Plan α → Nat
  | .done _ => 0
  | .ask q next => (next (source.answer q)).length source + 1
  | .join left right next => left.length source + right.length source + 1 +
      (next (left.outcome source) (right.outcome source)).length source
  | .tryJoin left right next => left.length source + right.length source + 1 +
      match (left.outcome source).toOption, (right.outcome source).toOption with
      | some a, some b => (next a b).length source
      | _, _ => 0

/-- Less can happen to a plan after a step. -/
theorem Step.length_lt {plan after : Plan α} (h : Step source plan after) (hsteady : plan.Steady) :
    after.length source < plan.length source := by
  induction h with
  | answer q next => exact Nat.lt_succ_self _
  | join a b next => simp only [length, outcome_done]; omega
  | tryJoin a b next => simp only [length, outcome_done, Except.toOption]; omega
  | failLeft failure right next => simp only [length]; omega
  | failRight left failure next => simp only [length]; omega
  | joinLeft right next h ih =>
    -- what follows the parts is still what it was
    obtain - | - | ⟨hleft, -, -⟩ := hsteady
    have houtcome := (h.firm hleft).2
    have hshorter := ih hleft.steady
    simp only [length, houtcome]
    omega
  | joinRight left next h ih =>
    obtain - | - | ⟨-, hright, -⟩ := hsteady
    have houtcome := (h.firm hright).2
    have hshorter := ih hright.steady
    simp only [length, houtcome]
    omega
  | tryLeft right next h ih =>
    obtain - | - | - | ⟨hleft, -, -⟩ := hsteady
    have houtcome := (h.steady hleft).2
    have hshorter := ih hleft
    simp only [length, houtcome]
    omega
  | tryRight left next h ih =>
    obtain - | - | - | ⟨-, hright, -⟩ := hsteady
    have houtcome := (h.steady hright).2
    have hshorter := ih hright
    simp only [length, houtcome]
    omega

theorem step_of_step {plan after : Plan α} {event : Event}
    (h : plan.step? source event = some after) : Step source plan after := by
  cases event with
  | answer spot => exact step_of_answer h
  | settle spot => exact step_of_settle h

/-- Answers in any order leave a plan that drops nothing with what it comes to. -/
theorem Firm.after {plan rest : Plan α} (h : plan.Firm) {events : List Event}
    (hafter : plan.after? source events = some rest) :
    rest.Firm ∧ rest.outcome source = plan.outcome source := by
  induction events generalizing plan with
  | nil =>
    obtain rfl := Option.some.inj hafter
    exact ⟨h, rfl⟩
  | cons event later ih =>
    obtain ⟨next, hnext, hlater⟩ := Option.bind_eq_some_iff.mp hafter
    obtain ⟨hfirm, houtcome⟩ := (step_of_step hnext).firm h
    obtain ⟨hrest, heq⟩ := ih hfirm hlater
    exact ⟨hrest, heq.trans houtcome⟩

/-- Answers in any order leave a steady plan with its success, and there are only so many. -/
theorem Steady.after {plan rest : Plan α} (h : plan.Steady) {events : List Event}
    (hafter : plan.after? source events = some rest) :
    rest.Steady ∧ (rest.outcome source).toOption = (plan.outcome source).toOption ∧
      rest.length source + events.length ≤ plan.length source := by
  induction events generalizing plan with
  | nil =>
    obtain rfl := Option.some.inj hafter
    exact ⟨h, rfl, Nat.le_refl _⟩
  | cons event later ih =>
    obtain ⟨next, hnext, hlater⟩ := Option.bind_eq_some_iff.mp hafter
    have hstep := step_of_step hnext
    obtain ⟨hsteady, houtcome⟩ := hstep.steady h
    obtain ⟨hrest, heq, hlength⟩ := ih hsteady hlater
    have hshorter := hstep.length_lt h
    refine ⟨hrest, heq.trans houtcome, ?_⟩
    rw [List.length_cons]
    omega

/-- What happens later happens to what is left. -/
theorem after_append {plan : Plan α} (events later : List Event) :
    plan.after? source (events ++ later) =
      (plan.after? source events).bind fun rest => rest.after? source later := by
  induction events generalizing plan with
  | nil => rfl
  | cons first events ih =>
    simp only [List.cons_append, after?, Option.bind_eq_bind]
    cases plan.step? source first with
    | none => rfl
    | some next => exact ih

theorem after_concat {plan rest next : Plan α} {events : List Event} {event : Event}
    (hrest : plan.after? source events = some rest) (hnext : rest.step? source event = some next) :
    plan.after? source (events ++ [event]) = some next := by
  rw [after_append, hrest, Option.bind_some, after?, hnext]
  rfl

/-- An open question can be answered. -/
theorem exists_answer (source : Source Id) {plan : Plan α} {spot : Spot} {q : Query}
    (h : plan.question? spot = some q) : ∃ after, plan.answer? source spot = some after := by
  induction plan generalizing spot with
  | done result => cases h
  | ask q next =>
    rcases spot with - | ⟨side, spot⟩
    · exact ⟨_, rfl⟩
    · cases h
  | join left right next hl hr
  | tryJoin left right next hl hr =>
    rcases spot with - | ⟨- | -, spot⟩
    · cases h
    · obtain ⟨left', hleft⟩ := hl h
      exact ⟨_, congrArg (Option.map _) hleft⟩
    · obtain ⟨right', hright⟩ := hr h
      exact ⟨_, congrArg (Option.map _) hright⟩

/-- An answer leaves the other open questions as they were. -/
theorem question_of_answer {plan after : Plan α} {spot other : Spot} {q : Query}
    (h : plan.answer? source spot = some after) (hne : other ≠ spot)
    (hq : plan.question? other = some q) : after.question? other = some q := by
  induction plan generalizing spot other with
  | done result => cases hq
  | ask q next =>
    rcases other with - | ⟨side, other⟩
    · rcases spot with - | ⟨- | -, spot⟩
      · exact absurd rfl hne
      · cases h
      · cases h
    · cases hq
  | join left right next hl hr
  | tryJoin left right next hl hr =>
    rcases spot with - | ⟨- | -, spot⟩
    · cases h
    -- what happens in one part leaves the other alone
    · obtain ⟨left', hleft, rfl⟩ := Option.map_eq_some_iff.mp h
      rcases other with - | ⟨- | -, other⟩
      · cases hq
      · exact hl hleft (fun heq => hne (congrArg _ heq)) hq
      · exact hq
    · obtain ⟨right', hright, rfl⟩ := Option.map_eq_some_iff.mp h
      rcases other with - | ⟨- | -, other⟩
      · cases hq
      · exact hq
      · exact hr hright (fun heq => hne (congrArg _ heq)) hq

/-- Something can happen to a plan: a question of it is open, or two parts of it can be joined. -/
def GoesOn (plan : Plan α) : Prop :=
  (∃ spot q, plan.question? spot = some q) ∨ ∃ spot after, plan.settle? spot = some after

/-- A whole goes on with its part. -/
theorem GoesOn.within {part : Plan α} (h : part.GoesOn) (side : Side) (wrap : Plan α → Plan β)
    (hquestion : ∀ spot, (wrap part).question? (side :: spot) = part.question? spot)
    (hsettle : ∀ spot, (wrap part).settle? (side :: spot) = (part.settle? spot).map wrap) :
    (wrap part).GoesOn := by
  rcases h with ⟨spot, q, hq⟩ | ⟨spot, after, hafter⟩
  · exact .inl ⟨side :: spot, q, (hquestion spot).trans hq⟩
  · refine .inr ⟨side :: spot, wrap after, ?_⟩
    rw [hsettle, hafter, Option.map_some]

/-- A plan goes on until it has come to an end. -/
theorem goes_on {plan : Plan α} (h : plan.result? = none) : plan.GoesOn := by
  induction plan with
  | done result => cases h
  | ask q next => exact .inl ⟨[], q, rfl⟩
  | join left right next hl hr =>
    cases hleft : left.result? with
    | none => exact (hl hleft).within .left (join · right next) (fun _ => rfl) fun _ => rfl
    | some a =>
      cases hright : right.result? with
      | none => exact (hr hright).within .right (join left · next) (fun _ => rfl) fun _ => rfl
      | some b => exact .inr ⟨[], next a b, by rw [settle?, hleft, hright]⟩
  | tryJoin left right next hl hr =>
    cases hleft : left.result? with
    | none => exact (hl hleft).within .left (tryJoin · right next) (fun _ => rfl) fun _ => rfl
    | some a =>
      cases hright : right.result? with
      | none => exact (hr hright).within .right (tryJoin left · next) (fun _ => rfl) fun _ => rfl
      | some b =>
        right
        -- both parts have come to an end, and one failure is enough
        cases a with
        | error failure => exact ⟨[], .done (.error failure), by rw [settle?, hleft]⟩
        | ok a =>
          cases b with
          | error failure => exact ⟨[], .done (.error failure), by rw [settle?, hleft, hright]⟩
          | ok b => exact ⟨[], next a b, by rw [settle?, hleft, hright]⟩

def Event.within (side : Side) : Event → Event
  | .answer spot => .answer (side :: spot)
  | .settle spot => .settle (side :: spot)

/-- What happens to a part happens to it within the whole. -/
theorem after_within (side : Side) (wrap : Plan α → Plan β)
    (hwrap : ∀ part event, (wrap part).step? source (event.within side) =
      (part.step? source event).map wrap)
    {plan rest : Plan α} {events : List Event} (h : plan.after? source events = some rest) :
    (wrap plan).after? source (events.map (Event.within side)) = some (wrap rest) := by
  induction events generalizing plan with
  | nil => exact congrArg (some ∘ wrap) (Option.some.inj h)
  | cons event later ih =>
    obtain ⟨next, hnext, hlater⟩ := Option.bind_eq_some_iff.mp h
    simp only [List.map_cons, after?, hwrap, hnext]
    exact ih hlater

/-- One thing after the other is one of the orders in which a plan can be carried out. -/
theorem exists_after_outcome (plan : Plan α) :
    ∃ events, plan.after? source events = some (done (plan.outcome source)) := by
  induction plan with
  | done result => exact ⟨[], rfl⟩
  | ask q next ih =>
    obtain ⟨events, h⟩ := ih (source.answer q)
    exact ⟨.answer [] :: events, h⟩
  | join left right next hl hr hn =>
    obtain ⟨first, hfirst⟩ := hl
    obtain ⟨second, hsecond⟩ := hr
    obtain ⟨last, hlast⟩ := hn (left.outcome source) (right.outcome source)
    have hleft := after_within .left (join · right next)
      (fun part event => by cases event <;> rfl) hfirst
    have hright := after_within .right (join (done (left.outcome source)) · next)
      (fun part event => by cases event <;> rfl) hsecond
    refine ⟨first.map (Event.within .left) ++ (second.map (Event.within .right) ++
      (.settle [] :: last)), ?_⟩
    rw [after_append, hleft, Option.bind_some, after_append, hright, outcome_join]
    exact hlast
  | tryJoin left right next hl hr hn =>
    obtain ⟨first, hfirst⟩ := hl
    obtain ⟨second, hsecond⟩ := hr
    have hleft := after_within .left (tryJoin · right next)
      (fun part event => by cases event <;> rfl) hfirst
    cases ha : left.outcome source with
    | error failure =>
      -- the other part has not been begun
      refine ⟨first.map (Event.within .left) ++ [.settle []], ?_⟩
      rw [after_append, hleft, ha, outcome_try_join, ha]
      rfl
    | ok a =>
      have hright := after_within .right (tryJoin (done (.ok a)) · next)
        (fun part event => by cases event <;> rfl) hsecond
      cases hb : right.outcome source with
      | error failure =>
        refine ⟨first.map (Event.within .left) ++ (second.map (Event.within .right) ++
          [.settle []]), ?_⟩
        rw [after_append, hleft, ha, Option.bind_some, after_append, hright, hb,
          outcome_try_join, ha, hb]
        rfl
      | ok b =>
        obtain ⟨last, hlast⟩ := hn a b
        refine ⟨first.map (Event.within .left) ++ (second.map (Event.within .right) ++
          (.settle [] :: last)), ?_⟩
        rw [after_append, hleft, ha, Option.bind_some, after_append, hright, hb,
          outcome_try_join, ha, hb]
        exact hlast

def spots {α : Type} : Plan α → List Spot
  | .done _ => []
  | .ask _ _ => [[]]
  | .join left right _ => left.spots.map (.left :: ·) ++ right.spots.map (.right :: ·)
  | .tryJoin left right _ => left.spots.map (.left :: ·) ++ right.spots.map (.right :: ·)

theorem mem_spots {plan : Plan α} {spot : Spot} {q : Query} (h : plan.question? spot = some q) :
    spot ∈ plan.spots := by
  induction plan generalizing spot with
  | done result => cases h
  | ask q next =>
    rcases spot with - | ⟨side, spot⟩
    · exact List.mem_singleton_self _
    · cases h
  | join left right next hl hr
  | tryJoin left right next hl hr =>
    rcases spot with - | ⟨- | -, spot⟩
    · cases h
    · exact List.mem_append_left _ (List.mem_map_of_mem (hl h))
    · exact List.mem_append_right _ (List.mem_map_of_mem (hr h))

end ChainLens.Plan
