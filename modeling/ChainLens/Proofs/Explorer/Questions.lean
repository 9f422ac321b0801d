import ChainLens.Explorer.Transactions
import ChainLens.Proofs.Source.Agenda
import Mathlib.Data.List.Nodup

/-!
What a report asks. Its questions are settled by the inputs and the location of its transaction: one
for each transaction that is spent from, and one for the height where a block is given without it.
-/

namespace ChainLens.Explorer

open Lookup

variable {network : Network} {location : Location}

def heightQuestions (location : Location) : List Query :=
  match location.height, location.block with
  | none, some hash => [.heightOf hash]
  | _, _ => []

/-- A height is asked for only where a block is named without one. -/
theorem height_questions_eq (location : Location) :
    (heightQuestions location = [] ∧ ¬ (location.block.isSome ∧ location.height = none)) ∨
      ∃ hash, location = ⟨some hash, none⟩ ∧ heightQuestions location = [.heightOf hash] := by
  obtain ⟨block, height⟩ := location
  cases height with
  | some height => exact .inl ⟨rfl, fun h => absurd h.2 (Option.some_ne_none height)⟩
  | none =>
    cases block with
    | none => exact .inl ⟨rfl, fun h => by cases h.1⟩
    | some hash => exact .inr ⟨hash, rfl, rfl⟩

theorem mem_height_questions {q : Query} :
    q ∈ heightQuestions location ↔ ∃ hash, location = ⟨some hash, none⟩ ∧ q = .heightOf hash := by
  rcases height_questions_eq location with ⟨hnone, hneedless⟩ | ⟨hash, rfl, hone⟩
  · rw [hnone]
    refine iff_of_false List.not_mem_nil ?_
    rintro ⟨hash, rfl, -⟩
    exact hneedless ⟨rfl, rfl⟩
  · rw [hone, List.mem_singleton]
    constructor
    · intro hq
      exact ⟨hash, rfl, hq⟩
    · rintro ⟨other, hsame, rfl⟩
      injection hsame with hblock
      injection hblock with hhash
      rw [hhash]

theorem length_height_questions :
    (heightQuestions location).length = if location.block.isSome ∧ location.height = none then
      1 else 0 := by
  rcases height_questions_eq location with ⟨hnone, hneedless⟩ | ⟨hash, rfl, hone⟩
  · rw [hnone, if_neg hneedless]
    rfl
  · rfl

theorem nodup_height_questions : (heightQuestions location).Nodup := by
  rcases height_questions_eq location with ⟨hnone, -⟩ | ⟨hash, -, hone⟩
  · rw [hnone]
    exact List.nodup_nil
  · rw [hone]
    exact List.nodup_singleton _

/-- Looking up what inputs spend asks for each transaction in turn. -/
theorem agenda_look_up_spent_bind {α : Type} {qs : List Query} (ids : List Txid)
    {f : Spent → Lookup α}
    (hf : ∀ spent, (f spent).Agenda qs) :
    (lookUpSpent ids >>= f).Agenda (ids.map .transactionBytes ++ qs) := by
  induction ids generalizing f with
  | nil =>
    rw [lookUpSpent, pure_bind]
    exact hf []
  | cons id ids ih =>
    -- a failed lookup is passed over, so what follows is reached with every reply
    simp only [lookUpSpent, bind_assoc, pure_bind]
    exact .attempt_bind fun reply => ih fun others => hf ((id, spentRecord? reply) :: others)

/-- A location takes the questions about its height. -/
theorem agenda_confirmed_height (location : Location) :
    (confirmedHeight location).Agenda (heightQuestions location) := by
  obtain ⟨block, height⟩ := location
  cases height with
  | some height => exact .pure (some height)
  | none =>
    cases block with
    | none => exact .pure none
    | some hash =>
      refine .attempt_bind fun reply => ?_
      -- the report may fail here, but asks no further
      cases reply with
      | ok height => exact .pure (some height)
      | error failure =>
        cases failure with
        | notFound missing => exact .pure none
        | _ => exact .throw _

/-- Whatever the replies, a report asks for the transactions that its inputs spend from, and for the
height it lacks. -/
theorem agenda_report (network : Network) (record : TxRecord) (location : Location) :
    (report network record location).Agenda
      ((spentTxids record.inputs).map .transactionBytes ++ heightQuestions location) := by
  simp only [report, reportInputs, concludeReport, bind_assoc, pure_bind]
  apply agenda_look_up_spent_bind
  intro spent
  -- the fee and all else is made of what is known by now
  apply (agenda_confirmed_height location).quiet_bind
  intro height
  exact (Agenda.sound _).quiet_bind fun fee => .pure _

/-- A report asks for transactions by their ids and for the height of its own block. -/
theorem asks_report {p : Query → Prop} (hspent : ∀ id, p (.transactionBytes id)) (record : TxRecord)
    (hheight : ∀ hash, location = ⟨some hash, none⟩ → p (.heightOf hash)) :
    (report network record location).AsksOnly p := by
  apply (agenda_report network record location).asks_only
  intro q hq
  rcases List.mem_append.mp hq with hq | hq
  · obtain ⟨id, -, rfl⟩ := List.mem_map.mp hq
    exact hspent id
  · obtain ⟨hash, hlocation, rfl⟩ := mem_height_questions.mp hq
    exact hheight hash hlocation

end ChainLens.Explorer
