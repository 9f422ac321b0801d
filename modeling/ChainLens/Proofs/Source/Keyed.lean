import Mathlib.Data.List.Nodup

/-!
Lists of values under keys, and what is found in them.
-/

namespace ChainLens

variable {κ α : Type} [DecidableEq κ] {entries : List (κ × α)} {key : κ} {value : α}

theorem mem_of_lookup (h : entries.lookup key = some value) : (key, value) ∈ entries := by
  obtain ⟨before, after, rfl, -⟩ := List.lookup_eq_some_iff.mp h
  exact List.mem_append_right _ List.mem_cons_self

/-- Under different keys everything is found. -/
theorem lookup_of_mem (hnodup : (entries.map Prod.fst).Nodup) (h : (key, value) ∈ entries) :
    entries.lookup key = some value := by
  obtain ⟨before, after, rfl⟩ := List.append_of_mem h
  rw [List.lookup_eq_some_iff]
  refine ⟨before, after, rfl, ?_⟩
  intro p hp
  rw [List.map_append, List.nodup_append] at hnodup
  rw [bne_iff_ne]
  exact (hnodup.2.2 p.1 (List.mem_map_of_mem hp) key List.mem_cons_self).symm

variable {f : κ → α} {keys : List κ}

/-- Where every key has the value of a function, that is what is found. -/
theorem eq_of_lookup_map (h : (keys.map fun k => (k, f k)).lookup key = some value) :
    value = f key := by
  obtain ⟨k, -, hpair⟩ := List.mem_map.mp (mem_of_lookup h)
  obtain ⟨rfl, hvalue⟩ := Prod.mk.inj hpair
  exact hvalue.symm

theorem lookup_map_of_mem (f : κ → α) (h : key ∈ keys) :
    (keys.map fun k => (k, f k)).lookup key = some (f key) := by
  cases hfound : (keys.map fun k => (k, f k)).lookup key with
  | some value => rw [eq_of_lookup_map hfound]
  | none =>
    have hmem : (key, f key) ∈ keys.map fun k => (k, f k) := List.mem_map_of_mem h
    have hother := List.lookup_eq_none_iff.mp hfound (key, f key) hmem
    simp at hother

end ChainLens
