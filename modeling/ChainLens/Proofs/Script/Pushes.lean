import ChainLens.Script.Instruction
import Mathlib.Data.List.Forall2

/-!
Scripts read by rules. A script is a row of operations and pushes, which may end in a push that is
cut off; every script is such a row in one way, and what `pushedData` gives is the data of its
pushes.
-/

namespace ChainLens

/-- What is split off does not depend on what follows. -/
theorem Decoder.split_append_more {n : Nat} {input taken rest : Bytes} (more : Bytes)
    (h : Decoder.split? n input = some (taken, rest)) :
    Decoder.split? n (input ++ more) = some (taken, rest ++ more) := by
  obtain ⟨rfl, rfl⟩ := Decoder.split_eq_some h
  rw [List.append_assoc, Decoder.split_append]

/-- What is too short to be split becomes long enough by some more bytes. -/
theorem Decoder.exists_split_of_none {n : Nat} {input : Bytes} (h : Decoder.split? n input = none) :
    ∃ more taken, more ≠ [] ∧ Decoder.split? n (input ++ more) = some (taken, []) := by
  by_cases hlength : input.length < n
  · have hmore : List.replicate (n - input.length) (0 : UInt8) ≠ [] := by
      rw [Ne, List.replicate_eq_nil_iff]
      omega
    have hwhole : (input ++ List.replicate (n - input.length) (0 : UInt8)).length = n := by
      rw [List.length_append, List.length_replicate]
      omega
    have hsplit := Decoder.split_append (input ++ List.replicate (n - input.length) (0 : UInt8)) []
    rw [hwhole, List.append_nil] at hsplit
    exact ⟨_, _, hmore, hsplit⟩
  · have htaken : (input.take n).length = n := by
      rw [List.length_take]
      omega
    have hsplit := Decoder.split_append (input.take n) (input.drop n)
    rw [htaken, List.take_append_drop, h] at hsplit
    cases hsplit

namespace Script

/-- The bytes that push data. Its length is told by the code, or by a count of one, two or four
bytes behind it. -/
inductive IsPush (data : Bytes) : Bytes → Prop
  | direct (hlength : data.length ≤ 75) : IsPush data (UInt8.ofNat data.length :: data)
  | counted (code : UInt8) (width : Nat) (hcode : (code, width) ∈ [(76, 1), (77, 2), (78, 4)])
      (hlength : data.length < LittleEndian.values width) :
    IsPush data (code :: (LittleEndian.encode width data.length ++ data))

def CutOff (s : Script) : Prop := s ≠ [] ∧ ∃ data more, more ≠ [] ∧ IsPush data (s ++ more)

/-- The data of the pushes in a script, up to its end or to a push that is cut off. -/
inductive Pushes : Script → List Bytes → Prop
  | ended : Pushes [] []
  | cutOff {s : Script} (hcut : CutOff s) : Pushes s []
  | operation {code : UInt8} {rest : Script} {datas : List Bytes} (hcode : 78 < code)
      (hrest : Pushes rest datas) :
    Pushes (code :: rest) datas
  | push {data bytes : Bytes} {rest : Script} {datas : List Bytes} (hpush : IsPush data bytes)
      (hrest : Pushes rest datas) :
    Pushes (bytes ++ rest) (data :: datas)

/-! The rules and the reader, one push at a time. -/

/-- Operations above 78 push nothing. -/
theorem push_form_eq_none {code : UInt8} : pushForm? code = none ↔ 78 < code := by
  simp only [pushForm?, UInt8.le_iff_toNat_le, UInt8.lt_iff_toNat_lt, ← UInt8.toNat_inj,
    UInt8.reduceToNat]
  constructor
  · intro h
    split_ifs at h
    omega
  · intro h
    rw [if_neg (by omega), if_neg (by omega), if_neg (by omega), if_neg (by omega)]

theorem push_form_direct {n : Nat} (hn : n ≤ 75) :
    pushForm? (UInt8.ofNat n) = some (.direct n) := by
  have hsmall : (UInt8.ofNat n).toNat = n :=
    UInt8.toNat_ofNat_of_lt' (Nat.lt_of_le_of_lt hn (by decide))
  have hle : UInt8.ofNat n ≤ 75 := by
    rw [UInt8.le_iff_toNat_le, hsmall]
    exact hn
  rw [pushForm?, if_pos hle, hsmall]

theorem push_form_counted {code : UInt8} {width : Nat}
    (h : (code, width) ∈ [(76, 1), (77, 2), (78, 4)]) :
    pushForm? code = some (.counted width) := by
  simp only [List.mem_cons, List.not_mem_nil, or_false, Prod.mk.injEq] at h
  obtain ⟨rfl, rfl⟩ | ⟨rfl, rfl⟩ | ⟨rfl, rfl⟩ := h
  · rfl
  · rfl
  · rfl

/-- A code that begins a push is a length, or announces a count. -/
theorem push_form_cases {code : UInt8} {form : PushForm} (h : pushForm? code = some form) :
    (code.toNat ≤ 75 ∧ form = .direct code.toNat) ∨
      ∃ width, (code, width) ∈ [(76, 1), (77, 2), (78, 4)] ∧ form = .counted width := by
  rw [pushForm?] at h
  split at h
  · next hle => exact .inl ⟨UInt8.le_iff_toNat_le.mp hle, (Option.some.inj h).symm⟩
  · split at h
    · next hone =>
      subst hone
      exact .inr ⟨1, by decide, (Option.some.inj h).symm⟩
    · split at h
      · next htwo =>
        subst htwo
        exact .inr ⟨2, by decide, (Option.some.inj h).symm⟩
      · split at h
        · next hfour =>
          subst hfour
          exact .inr ⟨4, by decide, (Option.some.inj h).symm⟩
        · cases h

theorem take_append_more {form : PushForm} {input data rest : Bytes} (more : Bytes)
    (h : form.take? input = some (data, rest)) :
    form.take? (input ++ more) = some (data, rest ++ more) := by
  cases form with
  | direct length => exact Decoder.split_append_more more h
  | counted width =>
    simp only [PushForm.take?, Option.bind_eq_bind, Option.bind_eq_some_iff, Prod.exists] at h ⊢
    obtain ⟨count, tail, hcount, hdata⟩ := h
    exact ⟨count, tail ++ more, Decoder.split_append_more more hcount,
      Decoder.split_append_more more hdata⟩

/-- A push that cannot be taken lacks some bytes. -/
theorem exists_take_of_none {form : PushForm} {input : Bytes} (h : form.take? input = none) :
    ∃ more data, more ≠ [] ∧ form.take? (input ++ more) = some (data, []) := by
  cases form with
  | direct length => exact Decoder.exists_split_of_none h
  | counted width =>
    simp only [PushForm.take?, Option.bind_eq_bind] at h ⊢
    cases hcount : Decoder.split? width input with
    | some counted =>
      obtain ⟨count, tail⟩ := counted
      rw [hcount, Option.bind_some] at h
      obtain ⟨more, data, hmore, hdata⟩ := Decoder.exists_split_of_none h
      refine ⟨more, data, hmore, ?_⟩
      rw [Decoder.split_append_more more hcount, Option.bind_some]
      exact hdata
    | none =>
      -- the count itself is cut off: it is completed first, and then the data that it announces
      obtain ⟨more, count, hmore, hcompleted⟩ := Decoder.exists_split_of_none hcount
      let data : Bytes := List.replicate (LittleEndian.decode count) 0
      have hlength : data.length = LittleEndian.decode count := List.length_replicate
      have hdata := Decoder.split_append data []
      rw [hlength, List.append_nil] at hdata
      refine ⟨more ++ data, data, List.append_ne_nil_of_left_ne_nil hmore data, ?_⟩
      rw [← List.append_assoc, Decoder.split_append_more data hcompleted, Option.bind_some]
      exact hdata

/-- A push begins with its code, and its data is taken from what follows. -/
theorem IsPush.taken {data bytes : Bytes} (h : IsPush data bytes) :
    ∃ code form tail, bytes = code :: tail ∧ pushForm? code = some form ∧
      ∀ rest, form.take? (tail ++ rest) = some (data, rest) := by
  cases h with
  | direct hlength =>
    exact ⟨_, _, _, rfl, push_form_direct hlength, fun rest => Decoder.split_append data rest⟩
  | counted code width hcode hlength =>
    refine ⟨code, .counted width, _, rfl, push_form_counted hcode, ?_⟩
    intro rest
    have hcount := Decoder.split_append (LittleEndian.encode width data.length) (data ++ rest)
    have hdecoded : LittleEndian.decode (LittleEndian.encode width data.length) = data.length := by
      rw [LittleEndian.decode_encode, Nat.mod_eq_of_lt hlength]
    rw [LittleEndian.length_encode] at hcount
    simp only [PushForm.take?, List.append_assoc, hcount, Option.bind_eq_bind, Option.bind_some,
      hdecoded]
    exact Decoder.split_append data rest

/-- Where data is taken, a push of that data stands. -/
theorem exists_push_of_take {code : UInt8} {form : PushForm} {input data rest : Bytes}
    (hform : pushForm? code = some form) (htake : form.take? input = some (data, rest)) :
    ∃ bytes, IsPush data bytes ∧ code :: input = bytes ++ rest := by
  obtain ⟨hcode, rfl⟩ | ⟨width, hcode, rfl⟩ := push_form_cases hform
  · obtain ⟨rfl, hlength⟩ := Decoder.split_eq_some htake
    have hpush := IsPush.direct (Nat.le_trans (Nat.le_of_eq hlength) hcode)
    rw [hlength, UInt8.ofNat_toNat] at hpush
    exact ⟨code :: data, hpush, rfl⟩
  · simp only [PushForm.take?, Option.bind_eq_bind, Option.bind_eq_some_iff, Prod.exists] at htake
    obtain ⟨count, tail, hcount, hdata⟩ := htake
    obtain ⟨rfl, hwidth⟩ := Decoder.split_eq_some hcount
    obtain ⟨rfl, hlength⟩ := Decoder.split_eq_some hdata
    have hbound : data.length < LittleEndian.values width := by
      rw [hlength, ← hwidth]
      exact LittleEndian.decode_lt count
    have hwritten : LittleEndian.encode width data.length = count := by
      rw [hlength, ← hwidth]
      exact LittleEndian.encode_decode count
    refine ⟨_, .counted code width hcode hbound, ?_⟩
    rw [hwritten, List.cons_append, List.append_assoc]

/-! The instructions and the data of a whole script. -/

theorem instructions_nil : instructions [] = [] := by
  rw [instructions]

theorem instructions_operation {code : UInt8} (hcode : 78 < code) (rest : Script) :
    instructions (code :: rest) = .operation code :: instructions rest := by
  rw [instructions]
  simp only [push_form_eq_none.mpr hcode]

/-- A push with all its data is followed by the rest of the script. -/
theorem instructions_taken {code : UInt8} {form : PushForm} {input data rest : Bytes}
    (hform : pushForm? code = some form) (htake : form.take? input = some (data, rest)) :
    instructions (code :: input) = .push data :: instructions rest := by
  rw [instructions]
  simp only [hform]
  split
  · next hnone =>
    rw [htake] at hnone
    cases hnone
  · next taken after hsome =>
    rw [htake] at hsome
    obtain ⟨rfl, rfl⟩ := Prod.mk.inj (Option.some.inj hsome)
    rfl

/-- A push that lacks some of its data ends the script. -/
theorem instructions_broken {code : UInt8} {form : PushForm} {input : Bytes}
    (hform : pushForm? code = some form)
    (htake : form.take? input = none) : instructions (code :: input) = [.broken] := by
  rw [instructions]
  simp only [hform]
  split
  · rfl
  · next taken after hsome =>
    rw [htake] at hsome
    cases hsome

theorem pushed_data_nil : pushedData [] = [] := by
  rw [pushedData, instructions_nil, List.flatMap_nil]

theorem pushed_data_operation {code : UInt8} (hcode : 78 < code) (rest : Script) :
    pushedData (code :: rest) = pushedData rest := by
  rw [pushedData, instructions_operation hcode, List.flatMap_cons, List.nil_append, pushedData]

theorem pushed_data_taken {code : UInt8} {form : PushForm} {input data rest : Bytes}
    (hform : pushForm? code = some form) (htake : form.take? input = some (data, rest)) :
    pushedData (code :: input) = data ++ pushedData rest := by
  rw [pushedData, instructions_taken hform htake, List.flatMap_cons, pushedData]

theorem pushed_data_broken {code : UInt8} {form : PushForm} {input : Bytes}
    (hform : pushForm? code = some form)
    (htake : form.take? input = none) : pushedData (code :: input) = [] := by
  rw [pushedData, instructions_broken hform htake]
  rfl

theorem pushed_data_cut_off {s : Script} (h : CutOff s) : pushedData s = [] := by
  obtain ⟨hs, data, more, hmore, hpush⟩ := h
  obtain ⟨code, form, tail, hbytes, hform, htake⟩ := hpush.taken
  cases s with
  | nil => exact absurd rfl hs
  | cons first input =>
    rw [List.cons_append] at hbytes
    obtain ⟨rfl, rfl⟩ := List.cons.inj hbytes
    cases hinput : form.take? input with
    | none => exact pushed_data_broken hform hinput
    | some taken =>
      -- what could be taken already would leave the missing bytes over
      have hwhole := htake []
      rw [List.append_nil, take_append_more more hinput] at hwhole
      have hrest : taken.2 ++ more = [] := (Prod.mk.inj (Option.some.inj hwhole)).2
      exact absurd (List.append_eq_nil_iff.mp hrest).2 hmore

/-- The pushed data is that of the pushes up to the end or to one that is cut off. -/
theorem pushed_data_of_pushes {s : Script} {datas : List Bytes} (h : Pushes s datas) :
    pushedData s = datas.flatten := by
  induction h with
  | ended => exact pushed_data_nil
  | cutOff hcut => exact pushed_data_cut_off hcut
  | operation hcode _ ih => rw [pushed_data_operation hcode, ih]
  | push hpush _ ih =>
    obtain ⟨code, form, tail, rfl, hform, htake⟩ := hpush.taken
    rw [List.cons_append, pushed_data_taken hform (htake _), ih, List.flatten_cons]

/-- Every script follows the rules. -/
theorem exists_pushes (s : Script) : ∃ datas, Pushes s datas := by
  fun_induction instructions s with
  | case1 => exact ⟨[], .ended⟩
  | case2 code rest hform ih =>
    obtain ⟨datas, hrest⟩ := ih
    exact ⟨datas, .operation (push_form_eq_none.mp hform) hrest⟩
  | case3 code rest form hform htake =>
    obtain ⟨more, data, hmore, hcompleted⟩ := exists_take_of_none htake
    obtain ⟨bytes, hpush, hbytes⟩ := exists_push_of_take hform hcompleted
    rw [List.append_nil] at hbytes
    refine ⟨[], .cutOff ⟨List.cons_ne_nil _ _, data, more, hmore, ?_⟩⟩
    rw [List.cons_append, hbytes]
    exact hpush
  | case4 code rest form hform data after htake ih =>
    obtain ⟨datas, hrest⟩ := ih
    obtain ⟨bytes, hpush, hbytes⟩ := exists_push_of_take hform htake
    rw [hbytes]
    exact ⟨data :: datas, .push hpush hrest⟩

/-- A row of pushes holds the data of each of them. -/
theorem pushes_of_row {datas row : List Bytes} (h : List.Forall₂ IsPush datas row) :
    Pushes row.flatten datas := by
  induction h with
  | nil => exact .ended
  | cons hpush _ ih => exact .push hpush ih

end Script
end ChainLens
