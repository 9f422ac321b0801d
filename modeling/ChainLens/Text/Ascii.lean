/-!
ASCII characters take one byte each, so a text of them has as many bytes as characters.
-/

namespace ChainLens.Text

theorem utf8_byte_size_of_ascii {l : List Char} (h : ∀ c ∈ l, c.utf8Size = 1) :
    (String.ofList l).utf8ByteSize = l.length := by
  induction l with
  | nil => rfl
  | cons c l ih =>
    have hcons : String.ofList (c :: l) = String.singleton c ++ String.ofList l := by
      apply String.toList_injective
      simp
    have hl : (String.ofList l).utf8ByteSize = l.length :=
      ih fun d hd => h d (List.mem_cons_of_mem c hd)
    rw [hcons, String.utf8ByteSize_append, hl, String.utf8ByteSize_singleton,
      h c List.mem_cons_self, List.length_cons, Nat.add_comm]

end ChainLens.Text
