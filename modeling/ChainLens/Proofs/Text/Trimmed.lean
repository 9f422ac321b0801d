import ChainLens.Text.Blank
import Mathlib.Data.List.DropRight

/-!
Texts without blanks at either end: what trimming leaves, and what it leaves as it is.
-/

namespace ChainLens.Text

/-- Neither the first character nor the last is blank. -/
structure Trimmed (l : List Char) : Prop where
  first : ∀ c ∈ l.head?, isBlank c = false
  last : ∀ c ∈ l.getLast?, isBlank c = false

theorem Trimmed.of_forall {l : List Char} (h : ∀ c ∈ l, isBlank c = false) : Trimmed l :=
  ⟨fun c hc => h c (List.mem_of_mem_head? hc), fun c hc => h c (List.mem_of_mem_getLast? hc)⟩

theorem Trimmed.trim_chars {l : List Char} (h : Trimmed l) : trimChars l = l := by
  have hfront : l.dropWhile isBlank = l := by
    cases l with
    | nil => rfl
    | cons c l =>
      apply List.dropWhile_cons_of_neg
      rw [h.first c rfl]
      exact Bool.false_ne_true
  rw [trimChars, hfront]
  apply List.rdropWhile_eq_self_iff.mpr
  intro hne
  rw [h.last _ (List.getLast_mem_getLast? hne)]
  exact Bool.false_ne_true

/-- What is left between blanks neither begins nor ends with one. -/
theorem trimmed_trim_chars (l : List Char) : Trimmed (trimChars l) where
  first := by
    intro c hc
    -- cutting the end leaves the first character as it is, and that is no blank
    have hbegin : trimChars l <+: l.dropWhile isBlank := List.rdropWhile_prefix isBlank _
    obtain ⟨rest, hrest⟩ := hbegin
    have hhead : (l.dropWhile isBlank).head? = some c := by
      rw [← hrest, List.head?_append, Option.mem_def.mp hc]
      rfl
    have hnot := List.head?_dropWhile_not isBlank l
    rw [hhead] at hnot
    exact hnot
  last := by
    intro c hc
    have hne : trimChars l ≠ [] := List.ne_nil_of_mem (List.mem_of_mem_getLast? hc)
    rw [List.getLast?_eq_some_getLast hne] at hc
    obtain rfl := Option.some.inj hc
    exact Bool.eq_false_iff.mpr (List.rdropWhile_last_not isBlank (l.dropWhile isBlank) hne)

theorem trim_chars_trim_chars (l : List Char) : trimChars (trimChars l) = trimChars l :=
  (trimmed_trim_chars l).trim_chars

/-- Blanks are gone after the first time. -/
theorem trim_trim (text : String) : trim (trim text) = trim text := by
  rw [trim, trim, String.toList_ofList, trim_chars_trim_chars]

theorem trim_chars_append (l : List Char) {blanks : List Char}
    (h : ∀ c ∈ blanks, isBlank c = true) :
    trimChars (l ++ blanks) = trimChars l := by
  have hall : blanks.dropWhile isBlank = [] := List.dropWhile_eq_nil_iff.mpr h
  have hend (front : List Char) : dropEndWhile isBlank (front ++ blanks) =
      dropEndWhile isBlank front := by
    have hreverse : ∀ c ∈ blanks.reverse, isBlank c = true :=
      fun c hc => h c (List.mem_reverse.mp hc)
    rw [dropEndWhile, List.reverse_append, List.dropWhile_append_of_pos hreverse]
    rfl
  rw [trimChars, List.dropWhile_append]
  split_ifs with hempty
  · rw [hall, trimChars, List.isEmpty_iff.mp hempty]
  · exact hend _

end ChainLens.Text
