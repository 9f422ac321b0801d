import ChainLens.Proofs.Encoding.Reads

/-!
What a decoder takes of its input. A steady decoder decides all by the bytes that it takes: whatever
stands behind them is left as it is, and a flaw found in them stays one. Only that the input ended
is not final. Some decoders take the same number of bytes from every input, and then there is
nothing in these bytes that they refuse.
-/

namespace ChainLens.Decoder

variable {α β : Type}

/-- More bytes behind an input change nothing, unless the input ended too early. -/
structure Steady (d : Decoder α) : Prop where
  append_ok : ∀ {input rest : Bytes} {a : α} (more : Bytes), d.run input = .ok (a, rest) →
    d.run (input ++ more) = .ok (a, rest ++ more)
  append_error : ∀ {input : Bytes} {e : DecodeError} (more : Bytes), d.run input =
      .error e → e ≠ .ended →
    d.run (input ++ more) = .error e

def Takes (n : Nat) (d : Decoder α) : Prop :=
  ∀ taken rest : Bytes, taken.length = n → ∃ a, d.run (taken ++ rest) = .ok (a, rest)

/-- A decoder fails in its first part, or in the second after the first. -/
theorem run_bind_eq_error {d : Decoder α} {f : α → Decoder β} {input : Bytes} {e : DecodeError} :
    (d >>= f).run input = .error e ↔
      d.run input = .error e ∨ ∃ a mid, d.run input = .ok (a, mid) ∧ (f a).run mid = .error e := by
  rw [StateT.run_bind]
  cases d.run input with
  | error first => simp [bind, Except.bind]
  | ok p =>
    constructor
    · intro h
      exact .inr ⟨p.1, p.2, rfl, h⟩
    · intro h
      obtain h | ⟨a, mid, hp, h⟩ := h
      · cases h
      · cases hp
        exact h

theorem decode_all_of_error {d : Decoder α} {bytes : Bytes} {e : DecodeError}
    (h : d.run bytes = .error e) :
    d.decodeAll bytes = .error e := by
  rw [decodeAll, h]
  rfl

/-- Bytes that are left over are refused. -/
theorem decode_all_of_rest {d : Decoder α} {bytes rest : Bytes} {a : α}
    (h : d.run bytes = .ok (a, rest))
    (hrest : rest ≠ []) : d.decodeAll bytes = .error .trailing := by
  rw [decodeAll, h]
  cases rest with
  | nil => exact absurd rfl hrest
  | cons b rest => rfl

namespace Steady

theorem pure (a : α) : (Pure.pure a : Decoder α).Steady where
  append_ok more h := by
    rw [run_pure_eq_ok] at h ⊢
    exact ⟨h.1, congrArg (· ++ more) h.2⟩
  append_error _ h _ := by cases h

theorem throw (e : DecodeError) : (MonadExcept.throw e : Decoder α).Steady where
  append_ok _ h := (run_throw_eq_ok.mp h).elim
  append_error _ h _ := h

theorem lift (x : Except DecodeError α) : (liftM x : Decoder α).Steady := by
  cases x with
  | ok a => exact Steady.pure a
  | error e => exact Steady.throw e

/-- The second part finds what the first has left, with the same bytes behind it. -/
theorem bind {d : Decoder α} {f : α → Decoder β} (hd : d.Steady) (hf : ∀ a, (f a).Steady) :
    (d >>= f).Steady where
  append_ok more h := by
    obtain ⟨a, mid, ha, hb⟩ := run_bind_eq_ok.mp h
    exact run_bind_eq_ok.mpr ⟨a, mid ++ more, hd.append_ok more ha, (hf a).append_ok more hb⟩
  append_error more h hended := by
    apply run_bind_eq_error.mpr
    obtain h | ⟨a, mid, ha, hb⟩ := run_bind_eq_error.mp h
    · exact .inl (hd.append_error more h hended)
    · exact .inr ⟨a, mid ++ more, hd.append_ok more ha, (hf a).append_error more hb hended⟩

theorem ite {c : Prop} [Decidable c] {d d' : Decoder α} (hd : d.Steady) (hd' : d'.Steady) :
    (if c then d else d').Steady := by
  split
  · exact hd
  · exact hd'

/-- A check refuses what has been taken, or goes on. -/
theorem check {c : Prop} [Decidable c] {e : DecodeError} {next : Unit → Decoder α}
    (h : (next ()).Steady) :
    (if c then (MonadExcept.throw e : Decoder Unit) >>= next else next ()).Steady :=
  .ite ((Steady.throw e : Decoder.Steady (α := Unit) _).bind fun _ => h) h

/-- Without any other flaw than that the input ended, exact reading is enough. -/
theorem of_reads {d : Decoder α} {write : α → Bytes} {valid : α → Prop} (h : d.Reads write valid)
    (hended : ∀ input e, d.run input = .error e → e = .ended) : d.Steady where
  append_ok more hrun := by
    obtain ⟨ha, rfl⟩ := h.run_eq_ok.mp hrun
    exact h.run_eq_ok.mpr ⟨ha, List.append_assoc ..⟩
  append_error _ hrun hne := absurd (hended _ _ hrun) hne

/-- What is accepted as a whole is not accepted before its end. -/
theorem decode_all_front {d : Decoder α} (h : d.Steady) {front more : Bytes} {a : α}
    (hwhole : d.decodeAll (front ++ more) = .ok a) (hmore : more ≠ []) :
    d.decodeAll front = .error .ended := by
  have hrun : d.run (front ++ more) = .ok (a, []) := decode_all_eq_ok.mp hwhole
  cases hfront : d.run front with
  | ok p =>
    -- a success would have left what is missing
    obtain ⟨b, rest⟩ := p
    rw [h.append_ok more hfront] at hrun
    have hnone : rest ++ more = [] := congrArg Prod.snd (Except.ok.inj hrun)
    exact absurd (List.append_eq_nil_iff.mp hnone).2 hmore
  | error e =>
    apply decode_all_of_error
    by_cases he : e = .ended
    · rw [hfront, he]
    · rw [h.append_error more hfront he] at hrun
      cases hrun

/-- Nothing can be added to what is accepted as a whole. -/
theorem decode_all_append {d : Decoder α} (h : d.Steady) {bytes more : Bytes} {a : α}
    (hwhole : d.decodeAll bytes = .ok a) (hmore : more ≠ []) :
    d.decodeAll (bytes ++ more) = .error .trailing :=
  decode_all_of_rest (h.append_ok more (decode_all_eq_ok.mp hwhole)) hmore

end Steady

namespace Takes

theorem pure (a : α) : (Pure.pure a : Decoder α).Takes 0 := by
  intro taken rest hlength
  obtain rfl := List.length_eq_zero_iff.mp hlength
  exact ⟨a, rfl⟩

theorem bind {m n : Nat} {d : Decoder α} {f : α → Decoder β} (hd : d.Takes m)
    (hf : ∀ a, (f a).Takes n) :
    (d >>= f).Takes (m + n) := by
  intro taken rest hlength
  have hfirst : (taken.take m).length = m := by
    rw [List.length_take]
    omega
  have hsecond : (taken.drop m).length = n := by
    rw [List.length_drop]
    omega
  have hwhole : taken.take m ++ (taken.drop m ++ rest) = taken ++ rest := by
    rw [← List.append_assoc, List.take_append_drop]
  obtain ⟨a, ha⟩ := hd (taken.take m) (taken.drop m ++ rest) hfirst
  obtain ⟨b, hb⟩ := hf a (taken.drop m) rest hsecond
  rw [hwhole] at ha
  exact ⟨b, run_bind_eq_ok.mpr ⟨a, _, ha, hb⟩⟩

/-- A decoder that takes `n` bytes and reads a format leaves no string of `n` bytes without a
value. -/
theorem exists_write_eq {n : Nat} {d : Decoder α} {write : α → Bytes} {valid : α → Prop}
    (h : d.Takes n)
    (hreads : d.Reads write valid) {bytes : Bytes} (hlength : bytes.length = n) :
    ∃ a, valid a ∧ write a = bytes := by
  obtain ⟨a, ha⟩ := h bytes [] hlength
  obtain ⟨hvalid, hbytes⟩ := hreads.run_eq_ok.mp ha
  rw [List.append_nil, List.append_nil] at hbytes
  exact ⟨a, hvalid, hbytes.symm⟩

end Takes

/-! Words, hashes and strings of a known length. -/

/-- Bytes can only be too few. -/
theorem run_exactly_eq_error {n : Nat} {input : Bytes} {e : DecodeError}
    (h : (exactly n).run input = .error e) :
    e = .ended := by
  simp only [StateT.run, exactly] at h
  split at h
  · cases h
  · exact (Except.error.inj h).symm

theorem run_hash256_eq_error {input : Bytes} {e : DecodeError} (h : hash256.run input = .error e) :
    e = .ended := by
  simp only [StateT.run, hash256] at h
  split at h
  · cases h
  · exact (Except.error.inj h).symm

theorem reads_exactly (n : Nat) : (exactly n).Reads id (fun taken => taken.length = n) :=
  fun _ _ _ => run_exactly_eq_ok

theorem steady_exactly (n : Nat) : (exactly n).Steady :=
  .of_reads (reads_exactly n) fun _ _ => run_exactly_eq_error

theorem steady_hash256 : hash256.Steady := .of_reads reads_hash256 fun _ _ => run_hash256_eq_error

theorem steady_number (width : Nat) : (number width).Steady :=
  (steady_exactly width).bind fun _ => .pure _

theorem steady_byte : byte.Steady := (steady_number 1).bind fun _ => .pure _

theorem steady_word32 : word32.Steady := (steady_number 4).bind fun _ => .pure _

theorem steady_word64 : word64.Steady := (steady_number 8).bind fun _ => .pure _

theorem steady_signed32 : signed32.Steady := steady_word32.bind fun _ => .pure _

theorem takes_exactly (n : Nat) : (exactly n).Takes n := by
  intro taken rest hlength
  exact ⟨taken, run_exactly_eq_ok.mpr ⟨hlength, rfl⟩⟩

theorem takes_hash256 : hash256.Takes 32 := by
  intro taken rest hlength
  exact ⟨⟨taken, hlength⟩, reads_hash256.run_eq_ok.mpr ⟨trivial, rfl⟩⟩

theorem takes_number (width : Nat) : (number width).Takes width :=
  (takes_exactly width).bind fun _ => .pure _

theorem takes_word32 : word32.Takes 4 := (takes_number 4).bind fun _ => .pure _

theorem takes_signed32 : signed32.Takes 4 := takes_word32.bind fun _ => .pure _

/-! Counts, and what they count. -/

theorem steady_wide (width least : Nat) : (CompactSize.wide width least).Steady := by
  apply (steady_number width).bind
  intro n
  exact .check (.pure n)

theorem steady_compact_size : CompactSize.decode.Steady := by
  apply steady_byte.bind
  intro first
  apply Steady.ite (steady_wide 2 0xfd)
  apply Steady.ite (steady_wide 4 0x10000)
  apply Steady.ite (steady_wide 8 0x100000000)
  exact .pure first.toNat

theorem steady_counted_bytes : countedBytes.Steady := steady_compact_size.bind steady_exactly

/-- If one value is the same whatever follows it, so are several. -/
theorem Steady.replicate {item : Decoder α} (h : item.Steady) (n : Nat) :
    (Decoder.replicate item n).Steady := by
  induction n with
  | zero => exact .pure []
  | succ n ih =>
    apply h.bind
    intro first
    apply ih.bind
    intro others
    exact .pure (first :: others)

theorem Steady.counted {item : Decoder α} (h : item.Steady) : (Decoder.counted item).Steady :=
  steady_compact_size.bind h.replicate

end ChainLens.Decoder
