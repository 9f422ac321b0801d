import ChainLens.Json.Document
import ChainLens.Json.Shape
import Mathlib.Algebra.Ring.Int.Defs
import Mathlib.Data.String.Basic

/-!
What settled values are like. The keys of a settled object are whole texts in ascending order, so no
key is there twice and a field of a record is found just when the object has it.
-/

namespace ChainLens.Json

/-- Keys are whole texts, and in ascending order. -/
structure Ascending (members : List (JsonText × Json)) : Prop where
  whole : ∀ m ∈ members, m.1.isSome = true
  ascending : members.Pairwise fun a b => a.1.getD "" < b.1.getD ""

variable {members : List (JsonText × Json)} {key : String} {value : Json}

theorem ascending_nil : Ascending [] := ⟨by simp, List.Pairwise.nil⟩

/-- Keys ascend when the first is below all others and these ascend. -/
theorem ascending_cons {m : JsonText × Json} : Ascending (m :: members) ↔
    m.1.isSome = true ∧ (∀ other ∈ members, m.1.getD "" < other.1.getD "") ∧ Ascending members := by
  constructor
  · intro h
    obtain ⟨hbefore, hafter⟩ := List.pairwise_cons.mp h.ascending
    obtain ⟨hfirst, hrest⟩ := List.forall_mem_cons.mp h.whole
    exact ⟨hfirst, hbefore, hrest, hafter⟩
  · rintro ⟨hfirst, hbefore, hrest⟩
    exact ⟨List.forall_mem_cons.mpr ⟨hfirst, hrest.whole⟩,
      List.pairwise_cons.mpr ⟨hbefore, hrest.ascending⟩⟩

theorem key_of_mem_insert_member {m : JsonText × Json} (h : m ∈ insertMember key value members) :
    m.1 = some key ∨ ∃ old ∈ members, old.1 = m.1 := by
  induction members with
  | nil =>
    obtain rfl := List.mem_singleton.mp h
    exact .inl rfl
  | cons first rest ih =>
    simp only [insertMember] at h
    split_ifs at h
    · rcases List.mem_cons.mp h with rfl | hold
      · exact .inl rfl
      · exact .inr ⟨m, hold, rfl⟩
    · rcases List.mem_cons.mp h with rfl | hrest
      · exact .inr ⟨first, List.mem_cons_self, rfl⟩
      · exact .inr ⟨m, List.mem_cons_of_mem _ hrest, rfl⟩
    · rcases List.mem_cons.mp h with rfl | hrest
      · exact .inr ⟨first, List.mem_cons_self, rfl⟩
      · rcases ih hrest with hnew | ⟨old, hold, hkey⟩
        · exact .inl hnew
        · exact .inr ⟨old, List.mem_cons_of_mem _ hold, hkey⟩

/-- A member put in the place of its key leaves the keys ascending. -/
theorem Ascending.insert_member (h : Ascending members) (key : String) (value : Json) :
    Ascending (insertMember key value members) := by
  induction members with
  | nil => exact ascending_cons.mpr ⟨rfl, by simp, ascending_nil⟩
  | cons first rest ih =>
    obtain ⟨hwhole, hbefore, hrest⟩ := ascending_cons.mp h
    simp only [insertMember]
    split_ifs with hless hsame
    · refine ascending_cons.mpr ⟨rfl, ?_, h⟩
      intro other hother
      rcases List.mem_cons.mp hother with rfl | hother
      · exact hless
      · exact hless.trans (hbefore other hother)
    · exact ascending_cons.mpr ⟨hwhole, hbefore, hrest⟩
    · -- what comes after the first member is the new one or was there before
      refine ascending_cons.mpr ⟨hwhole, ?_, ih hrest⟩
      intro other hother
      rcases key_of_mem_insert_member hother with hnew | ⟨old, hold, hkey⟩
      · rw [hnew]
        exact lt_of_le_of_ne (not_lt.mp hless) (Ne.symm hsame)
      · rw [← hkey]
        exact hbefore old hold

/-- The members put in place so far stay in order. -/
theorem ascending_of_settle_members {depth : Nat} {written done settled : List (JsonText × Json)}
    (hdone : Ascending done) (h : settleMembers depth written done = some settled) :
    Ascending settled := by
  induction written generalizing done with
  | nil =>
    rw [settleMembers] at h
    exact Option.some.inj h ▸ hdone
  | cons m rest ih =>
    simp only [settleMembers, Option.bind_eq_bind, Option.bind_eq_some_iff] at h
    obtain ⟨key, -, value, -, hrest⟩ := h
    exact ih (hdone.insert_member key value) hrest

/-- The keys of a settled object ascend. -/
theorem ascending_of_settle {json : Json} (h : settle json = some (.object members)) :
    Ascending members := by
  cases json with
  | object written =>
    rw [settle, settleWithin, if_neg (by decide), Option.map_eq_some_iff] at h
    obtain ⟨settled, hsettled, hobject⟩ := h
    obtain rfl := Json.object.inj hobject
    exact ascending_of_settle_members ascending_nil hsettled
  | null | bool | number | string | array => simp [settle, settleWithin] at h

/-- Nothing but `null` settles to `null`. -/
theorem eq_null_of_settle {json : Json} (h : settle json = some .null) : json = .null := by
  cases json with
  | null => rfl
  | bool | number | string | array | object => simp [settle, settleWithin] at h

theorem slot_of_cases (key : String) (members : List (JsonText × Json)) :
    Shape.slotOf [key] members = some .noKey ∨ ∃ value, (some key, value) ∈ members := by
  by_cases hmem : ∃ value, (some key, value) ∈ members
  · exact .inr hmem
  · have hfilter : (members.filter fun m => m.1 == some key) = [] := by
      rw [List.filter_eq_nil_iff]
      intro m hm hkey
      exact hmem ⟨m.2, eq_of_beq hkey ▸ hm⟩
    left
    simp only [Shape.slotOf, List.any_cons, List.any_nil, Bool.or_false, hfilter]

namespace Ascending

/-- A key stands for one value. -/
theorem filter_key (h : Ascending members) (hmem : (some key, value) ∈ members) :
    (members.filter fun m => m.1 == some key) = [(some key, value)] := by
  obtain ⟨before, after, rfl⟩ := List.append_of_mem hmem
  obtain ⟨-, hafter, hseam⟩ := List.pairwise_append.mp h.ascending
  have hnone (part : List (JsonText × Json)) (hother : ∀ m ∈ part, m.1.getD "" ≠ key) :
      (part.filter fun m => m.1 == some key) = [] := by
    rw [List.filter_eq_nil_iff]
    intro m hm hkey
    apply hother m hm
    rw [eq_of_beq hkey]
    rfl
  have hless : ∀ m ∈ before, m.1.getD "" ≠ key := fun m hm => (hseam m hm _ List.mem_cons_self).ne
  have hmore : ∀ m ∈ after, m.1.getD "" ≠ key :=
    fun m hm => ((List.pairwise_cons.mp hafter).1 m hm).ne'
  rw [List.filter_append, List.filter_cons_of_pos (by simp), hnone before hless, hnone after hmore,
    List.nil_append]

/-- Among ascending keys a member is found by its own. -/
theorem slot_of_mem (h : Ascending members) (hmem : (some key, value) ∈ members) :
    Shape.slotOf [key] members = some (.value value) := by
  have hfilter := h.filter_key hmem
  simp only [Shape.slotOf, List.any_cons, List.any_nil, Bool.or_false, hfilter]

/-- A field that has to be given is read from the member under its name. -/
theorem required_eq_some_iff {α : Type} {read : Json → Option α} {a : α} (h : Ascending members) :
    (∃ slot, Shape.slotOf [key] members = some slot ∧ slot.required read = some a) ↔
      ∃ value, (some key, value) ∈ members ∧ read value = some a := by
  constructor
  · rintro ⟨slot, hslot, hread⟩
    rcases slot_of_cases key members with hnone | ⟨value, hmem⟩
    · obtain rfl := Option.some.inj (hslot.symm.trans hnone)
      cases hread
    · obtain rfl := Option.some.inj (hslot.symm.trans (h.slot_of_mem hmem))
      exact ⟨value, hmem, hread⟩
  · rintro ⟨value, hmem, hread⟩
    exact ⟨.value value, h.slot_of_mem hmem, hread⟩

end Ascending

end ChainLens.Json

namespace ChainLens.Shape

theorem text_eq_some_iff {json : Json} {s : String} : text json = some s ↔ json = .text s := by
  cases json <;> simp [text, Json.string?, Json.text]

theorem signed_eq_some_iff {json : Json} {n : Int} :
    signed64 json = some n ↔ json = .int n ∧ -2 ^ 63 ≤ n ∧ n < 2 ^ 63 := by
  have hlow : Int64.minValue.toInt = -2 ^ 63 := by decide
  have hhigh : Int64.maxValue.toInt = 2 ^ 63 - 1 := by decide
  simp only [signed64, inRange, hlow, hhigh, Option.bind_eq_bind, Option.bind_eq_some_iff]
  constructor
  · rintro ⟨m, hm, hrange⟩
    split_ifs at hrange with hbounds
    obtain rfl := Option.some.inj hrange
    refine ⟨?_, by omega⟩
    revert hm
    cases json with
    | number number => cases number <;> simp [Json.int?, Json.int]
    | null | bool | string | array | object => simp [Json.int?]
  · rintro ⟨rfl, hlower, hupper⟩
    exact ⟨n, rfl, by rw [if_pos (by omega)]⟩

end ChainLens.Shape
