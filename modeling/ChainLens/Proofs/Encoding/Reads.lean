import ChainLens.Encoding.CompactSize

/-!
A decoder reads a format when it succeeds on the written forms of the valid values and on nothing
else, whatever follows them, and leaves what follows. Sequencing keeps the notion, so the readers of
large values have it from those of words, hashes and counts.
-/

namespace ChainLens.Decoder

variable {α β : Type}

/-- The decoder accepts what `write` makes of the values in `valid`, and nothing else. -/
def Reads (d : Decoder α) (write : α → Bytes) (valid : α → Prop) : Prop :=
  ∀ input a rest, d.run input = .ok (a, rest) ↔ valid a ∧ input = write a ++ rest

/-! What success says of each part of a decoder. -/

/-- A decoder that goes on succeeds when both of its parts do, one after the other. -/
theorem run_bind_eq_ok {d : Decoder α} {f : α → Decoder β} {input rest : Bytes} {b : β} :
    (d >>= f).run input = .ok (b, rest) ↔
      ∃ a mid, d.run input = .ok (a, mid) ∧ (f a).run mid = .ok (b, rest) := by
  rw [StateT.run_bind]
  cases d.run input with
  | error e => simp [bind, Except.bind]
  | ok p =>
    constructor
    · intro h
      exact ⟨p.1, p.2, rfl, h⟩
    · intro hparts
      obtain ⟨a, mid, hp, h⟩ := hparts
      cases hp
      exact h

theorem run_pure_eq_ok {a b : α} {input rest : Bytes} :
    (pure a : Decoder α).run input = .ok (b, rest) ↔ a = b ∧ input = rest := by
  rw [StateT.run_pure]
  simp [pure, Except.pure]

theorem run_throw_eq_ok {e : DecodeError} {b : α} {input rest : Bytes} :
    (throw e : Decoder α).run input = .ok (b, rest) ↔ False := by
  have h : (throw e : Decoder α).run input = .error e := rfl
  simp [h]

theorem run_check_eq_ok {c : Prop} [Decidable c] {e : DecodeError} {next : Unit → Decoder α}
    {input rest : Bytes}
    {a : α} :
    (if c then throw e >>= next else next ()).run input = .ok (a, rest) ↔
      ¬ c ∧ (next ()).run input = .ok (a, rest) := by
  by_cases hc : c
  · rw [if_pos hc, run_bind_eq_ok]
    constructor
    · intro hthrow
      obtain ⟨u, mid, hmid, -⟩ := hthrow
      exact (run_throw_eq_ok.mp hmid).elim
    · intro hpass
      exact absurd hc hpass.1
  · rw [if_neg hc]
    constructor
    · intro hpass
      exact ⟨hc, hpass⟩
    · intro hpass
      exact hpass.2

theorem run_lift_eq_ok {x : Except DecodeError α} {a : α} {input rest : Bytes} :
    (liftM x : Decoder α).run input = .ok (a, rest) ↔ x = .ok a ∧ input = rest := by
  have h : (liftM x : Decoder α).run input = x >>= fun a => .ok (a, input) := rfl
  rw [h]
  cases x with
  | error e => simp [bind, Except.bind]
  | ok b => simp [bind, Except.bind]

/-- The whole is decoded when nothing is left. -/
theorem decode_all_eq_ok {d : Decoder α} {bytes : Bytes} {a : α} :
    d.decodeAll bytes = .ok a ↔ d.run bytes = .ok (a, []) := by
  rw [decodeAll]
  cases hd : d.run bytes with
  | error e => simp [bind, Except.bind]
  | ok p =>
    obtain ⟨b, rest⟩ := p
    cases rest with
    | nil => simp [bind, Except.bind, pure, Except.pure]
    | cons c rest => simp [bind, Except.bind, throw, throwThe, MonadExceptOf.throw]

namespace Reads

variable {d : Decoder α} {write : α → Bytes} {valid : α → Prop}

theorem run_eq_ok (h : d.Reads write valid) {input rest : Bytes} {a : α} :
    d.run input = .ok (a, rest) ↔ valid a ∧ input = write a ++ rest :=
  h input a rest

/-- Over the whole input, a decoder and its writer are inverse to each other. -/
theorem decode_all_eq_ok (h : d.Reads write valid) {bytes : Bytes} {a : α} :
    d.decodeAll bytes = .ok a ↔ valid a ∧ bytes = write a := by
  rw [Decoder.decode_all_eq_ok, h.run_eq_ok, List.append_nil]

/-- Values in another type are read and written through a map that `back` inverts. -/
theorem map (h : d.Reads write valid) (there : α → β) (back : β → α)
    (hthere : ∀ b, there (back b) = b)
    (hback : ∀ a, valid a → back (there a) = a) :
    (d >>= fun a => pure (there a)).Reads (fun b => write (back b)) (fun b => valid (back b)) := by
  intro input b rest
  simp only [run_bind_eq_ok, h.run_eq_ok, run_pure_eq_ok]
  constructor
  · intro hread
    obtain ⟨a, mid, ⟨ha, rfl⟩, rfl, rfl⟩ := hread
    rw [hback a ha]
    exact ⟨ha, rfl⟩
  · intro hwrite
    obtain ⟨hb, rfl⟩ := hwrite
    exact ⟨back b, rest, ⟨hb, rfl⟩, hthere b, rfl⟩

end Reads

/-! Words, hashes and strings of a known length. -/

/-- What is taken and what is left make up the input. -/
theorem run_exactly_eq_ok {n : Nat} {input taken rest : Bytes} :
    (exactly n).run input = .ok (taken, rest) ↔ taken.length = n ∧ input = taken ++ rest := by
  constructor
  · intro h
    simp only [StateT.run, exactly] at h
    split at h
    · next u v huv =>
      simp only [Except.ok.injEq, Prod.mk.injEq] at h
      obtain ⟨rfl, rfl⟩ := h
      exact (split_eq_some huv).symm
    · cases h
  · intro hwrite
    obtain ⟨rfl, rfl⟩ := hwrite
    exact run_exactly_append taken rest

/-- A number is read from its bytes, the least first. -/
theorem reads_number (width : Nat) :
    (number width).Reads (LittleEndian.encode width) (fun n => n < LittleEndian.values width) := by
  intro input n rest
  simp only [number, run_bind_eq_ok, run_exactly_eq_ok, run_pure_eq_ok]
  constructor
  · intro hread
    obtain ⟨taken, mid, ⟨rfl, rfl⟩, rfl, rfl⟩ := hread
    exact ⟨LittleEndian.decode_lt taken, by rw [LittleEndian.encode_decode]⟩
  · intro hwrite
    obtain ⟨hn, rfl⟩ := hwrite
    refine ⟨_, rest, ⟨LittleEndian.length_encode width n, rfl⟩, ?_, rfl⟩
    rw [LittleEndian.decode_encode, Nat.mod_eq_of_lt hn]

theorem reads_byte : byte.Reads (fun b => [b]) (fun _ => True) := by
  have h := (reads_number 1).map UInt8.ofNat UInt8.toNat (fun _ => UInt8.ofNat_toNat)
    fun n hn => UInt8.toNat_ofNat_of_lt' hn
  intro input b rest
  have hb : LittleEndian.encode 1 b.toNat = [b] := by simp [LittleEndian.encode]
  have hv : b.toNat < LittleEndian.values 1 := b.toNat_lt
  rw [byte, h.run_eq_ok, hb]
  simp only [hv]

theorem reads_word32 : word32.Reads Encode.word32 (fun _ => True) := by
  have h := (reads_number 4).map UInt32.ofNat UInt32.toNat (fun _ => UInt32.ofNat_toNat)
    fun n hn => UInt32.toNat_ofNat_of_lt' hn
  intro input w rest
  have hv : w.toNat < LittleEndian.values 4 := w.toNat_lt
  rw [word32, h.run_eq_ok]
  simp only [hv, Encode.word32]

theorem reads_word64 : word64.Reads Encode.word64 (fun _ => True) := by
  have h := (reads_number 8).map UInt64.ofNat UInt64.toNat (fun _ => UInt64.ofNat_toNat)
    fun n hn => UInt64.toNat_ofNat_of_lt' hn
  intro input w rest
  have hv : w.toNat < LittleEndian.values 8 := w.toNat_lt
  rw [word64, h.run_eq_ok]
  simp only [hv, Encode.word64]

theorem reads_signed32 : signed32.Reads Encode.signed32 (fun _ => True) :=
  reads_word32.map UInt32.toInt32 Int32.toUInt32 (fun _ => rfl) fun _ _ => rfl

theorem reads_hash256 : hash256.Reads Hash256.bytes (fun _ => True) := by
  intro input a rest
  simp only [StateT.run, hash256, true_and]
  split
  · next taken rest' h =>
    obtain ⟨rfl, hl⟩ := split_eq_some h
    constructor
    · intro heq
      simp only [Except.ok.injEq, Prod.mk.injEq] at heq
      obtain ⟨rfl, rfl⟩ := heq
      rfl
    · intro heq
      obtain ⟨ht, rfl⟩ := List.append_inj heq (hl.trans a.length_eq.symm)
      subst ht
      rfl
  · next h =>
    constructor
    · intro heq
      cases heq
    · -- Thirty-two bytes at the front would have been taken.
      rintro rfl
      have hs := split_append a.bytes rest
      rw [a.length_eq, h] at hs
      cases hs

/-! Counts, and what they count. -/

theorem reads_wide (width least : Nat) :
    (CompactSize.wide width least).Reads (LittleEndian.encode width)
      (fun n => n < LittleEndian.values width ∧ least ≤ n) := by
  intro input n rest
  simp only [CompactSize.wide, run_bind_eq_ok, (reads_number width).run_eq_ok]
  constructor
  · intro hread
    obtain ⟨m, mid, ⟨hm, rfl⟩, h⟩ := hread
    rw [run_check_eq_ok, run_pure_eq_ok] at h
    obtain ⟨hl, rfl, rfl⟩ := h
    exact ⟨⟨hm, Nat.le_of_not_lt hl⟩, rfl⟩
  · intro hwrite
    obtain ⟨⟨hn, hl⟩, rfl⟩ := hwrite
    refine ⟨n, rest, ⟨hn, rfl⟩, ?_⟩
    rw [run_check_eq_ok, run_pure_eq_ok]
    exact ⟨Nat.not_lt.mpr hl, rfl, rfl⟩

/-- A count is accepted only in its narrowest form. -/
theorem reads_compact_size :
    CompactSize.decode.Reads CompactSize.encode (fun n => n < UInt64.size) := by
  intro input n rest
  constructor
  · intro h
    simp only [CompactSize.decode, run_bind_eq_ok, reads_byte.run_eq_ok, true_and] at h
    obtain ⟨first, mid, rfl, h⟩ := h
    have h2 : LittleEndian.values 2 = 0x10000 := rfl
    have h4 : LittleEndian.values 4 = 0x100000000 := rfl
    have h8 : LittleEndian.values 8 = UInt64.size := rfl
    have hs : UInt64.size = 0x10000000000000000 := rfl
    -- A marker fixes the width, and the least count of that width rules out the narrower forms.
    split at h
    · next hf =>
      obtain ⟨⟨hn, hl⟩, rfl⟩ := (reads_wide 2 0xfd).run_eq_ok.mp h
      subst hf
      rw [CompactSize.encode, if_neg (by omega), if_pos (by omega)]
      exact ⟨by omega, rfl⟩
    · split at h
      · next hf =>
        obtain ⟨⟨hn, hl⟩, rfl⟩ := (reads_wide 4 0x10000).run_eq_ok.mp h
        subst hf
        rw [CompactSize.encode, if_neg (by omega), if_neg (by omega), if_pos (by omega)]
        exact ⟨by omega, rfl⟩
      · split at h
        · next hf =>
          obtain ⟨⟨hn, hl⟩, rfl⟩ := (reads_wide 8 0x100000000).run_eq_ok.mp h
          subst hf
          rw [CompactSize.encode, if_neg (by omega), if_neg (by omega), if_neg (by omega)]
          exact ⟨by omega, rfl⟩
        · next hd he hf =>
          rw [run_pure_eq_ok] at h
          obtain ⟨rfl, rfl⟩ := h
          have hb := first.toNat_lt
          have hne (k : Nat) (hk : k < 256) (h : first ≠ UInt8.ofNat k) : first.toNat ≠ k := by
            rintro rfl
            exact h UInt8.ofNat_toNat.symm
          have h253 := hne 0xfd (by omega) hd
          have h254 := hne 0xfe (by omega) he
          have h255 := hne 0xff (by omega) hf
          rw [CompactSize.encode, if_pos (by omega), UInt8.ofNat_toNat]
          exact ⟨by omega, rfl⟩
  · intro hwrite
    obtain ⟨hn, rfl⟩ := hwrite
    exact CompactSize.run_decode_append rest hn

theorem reads_counted_bytes :
    countedBytes.Reads Encode.countedBytes (fun b => b.length < UInt64.size) := by
  intro input b rest
  simp only [countedBytes, run_bind_eq_ok, reads_compact_size.run_eq_ok, run_exactly_eq_ok,
    Encode.countedBytes]
  constructor
  · intro hread
    obtain ⟨n, mid, ⟨hn, rfl⟩, rfl, rfl⟩ := hread
    exact ⟨hn, (List.append_assoc ..).symm⟩
  · intro hwrite
    obtain ⟨hb, rfl⟩ := hwrite
    exact ⟨b.length, b ++ rest, ⟨hb, List.append_assoc ..⟩, rfl, rfl⟩

/-- If one value is read from what it is written as, so are several in a row. -/
theorem Reads.replicate {d : Decoder α} {write : α → Bytes} {valid : α → Prop}
    (h : d.Reads write valid) (n : Nat) :
    (replicate d n).Reads (List.flatMap write) (fun l => l.length = n ∧ ∀ a ∈ l, valid a) := by
  -- what the first value leaves is where the others begin
  induction n with
  | zero =>
    intro input l rest
    simp only [Decoder.replicate, run_pure_eq_ok, List.length_eq_zero_iff]
    constructor
    · intro hread
      obtain ⟨rfl, rfl⟩ := hread
      simp
    · intro hwrite
      obtain ⟨⟨rfl, -⟩, rfl⟩ := hwrite
      simp
  | succ n ih =>
    intro input l rest
    simp only [Decoder.replicate, run_bind_eq_ok, h.run_eq_ok, ih.run_eq_ok, run_pure_eq_ok]
    constructor
    · intro hread
      obtain ⟨a, mid, ⟨ha, rfl⟩, others, mid', ⟨⟨rfl, ho⟩, rfl⟩, rfl, rfl⟩ := hread
      refine ⟨⟨rfl, ?_⟩, by simp⟩
      intro x hx
      rcases List.mem_cons.mp hx with rfl | hx
      · exact ha
      · exact ho x hx
    · intro hwrite
      obtain ⟨⟨hl, hv⟩, rfl⟩ := hwrite
      obtain ⟨a, others, rfl⟩ := List.exists_cons_of_length_eq_add_one hl
      refine ⟨a, _, ⟨hv a List.mem_cons_self, ?_⟩, others, rest,
        ⟨⟨Nat.succ.inj hl, ?_⟩, rfl⟩, rfl, rfl⟩
      · simp
      · intro x hx
        exact hv x (List.mem_cons_of_mem a hx)

/-- A counted list is read when its count fits into 64 bits and its values are valid. -/
theorem Reads.counted {d : Decoder α} {write : α → Bytes} {valid : α → Prop}
    (h : d.Reads write valid) :
    (counted d).Reads (Encode.counted write)
      (fun l => l.length < UInt64.size ∧ ∀ a ∈ l, valid a) := by
  intro input l rest
  simp only [Decoder.counted, run_bind_eq_ok, reads_compact_size.run_eq_ok,
    (h.replicate _).run_eq_ok, Encode.counted]
  constructor
  · intro hread
    obtain ⟨n, mid, ⟨hn, rfl⟩, ⟨rfl, hv⟩, rfl⟩ := hread
    exact ⟨⟨hn, hv⟩, (List.append_assoc ..).symm⟩
  · intro hwrite
    obtain ⟨⟨hn, hv⟩, rfl⟩ := hwrite
    exact ⟨l.length, _, ⟨hn, List.append_assoc ..⟩, ⟨rfl, hv⟩, rfl⟩

end ChainLens.Decoder
