import ChainLens.Chain.Record
import ChainLens.Proofs.Encoding.Reads

/-!
The two written forms of a transaction. Together they are read exactly: every transaction whose
counts and witnesses stay within their limits has one written form, and the reader accepts these
forms and no others.
-/

namespace ChainLens

open Decoder

/-- A witness within the room that a reader reserves. -/
structure Witness.Fits (w : Witness) : Prop where
  count_le : w.length ≤ witnessLimit
  room_le : sumOver countedSize w ≤ witnessLimit

def TxInput.bare (input : TxInput) : TxInput := { input with witness := [] }

/-- The counts of a transaction have 64 bits at most. No list in memory is longer than that. -/
structure Transaction.Countable (t : Transaction) : Prop where
  inputs : t.inputs.length < UInt64.size
  outputs : t.outputs.length < UInt64.size
  scriptSigs : ∀ input ∈ t.inputs, input.scriptSig.length < UInt64.size
  scripts : ∀ output ∈ t.outputs, output.script.length < UInt64.size

/-- The transactions that are read back from their written forms. -/
structure Transaction.Readable (t : Transaction) : Prop extends t.Countable where
  witnesses : ∀ input ∈ t.inputs, input.witness.Fits

/-- An input is read without its witness. -/
theorem TxInput.reads : TxInput.decoder.Reads TxInput.encode
    (fun input => input.scriptSig.length < UInt64.size ∧ input.witness = []) := by
  intro bytes input rest
  simp only [TxInput.decoder, run_bind_eq_ok, reads_hash256.run_eq_ok, reads_word32.run_eq_ok,
    reads_counted_bytes.run_eq_ok, run_pure_eq_ok]
  constructor
  · intro hread
    obtain ⟨id, _, ⟨-, rfl⟩, index, _, ⟨-, rfl⟩, script, _, ⟨hs, rfl⟩, sequence, _, ⟨-, rfl⟩,
        rfl, rfl⟩ := hread
    exact ⟨⟨hs, rfl⟩, by simp [TxInput.encode]⟩
  · intro hwrite
    obtain ⟨⟨hs, hw⟩, rfl⟩ := hwrite
    obtain ⟨id, index, script, sequence, witness⟩ := input
    subst hw
    exact ⟨id, _, ⟨trivial, by simp [TxInput.encode]⟩, index, _, ⟨trivial, rfl⟩,
      script, _, ⟨hs, rfl⟩,
      sequence, _, ⟨trivial, rfl⟩, rfl, rfl⟩

theorem TxOutput.reads : TxOutput.decoder.Reads TxOutput.encode
    (fun output => output.script.length < UInt64.size) := by
  intro bytes output rest
  simp only [TxOutput.decoder, run_bind_eq_ok, reads_word64.run_eq_ok,
    reads_counted_bytes.run_eq_ok, run_pure_eq_ok]
  constructor
  · intro hread
    obtain ⟨value, _, ⟨-, rfl⟩, script, _, ⟨hs, rfl⟩, rfl, rfl⟩ := hread
    exact ⟨hs, by simp [TxOutput.encode]⟩
  · intro hwrite
    obtain ⟨hs, rfl⟩ := hwrite
    exact ⟨output.value, _, ⟨trivial, by simp [TxOutput.encode]⟩, output.script, _,
      ⟨hs, rfl⟩, rfl, rfl⟩

namespace Witness

/-- Room is reserved just while the elements and their counts stay within the limit; the index is
not counted. -/
theorem reserve_eq_ok {count used length : Nat} (hc : count ≤ witnessLimit) :
    reserve count used length = .ok () ↔ used + CompactSize.width length + length ≤
      witnessLimit := by
  have hl : witnessLimit = 4000000 := rfl
  have hs : UInt64.size = 18446744073709551616 := rfl
  simp only [reserve]
  split
  · next h =>
    have hn : ¬ used + CompactSize.width length + length ≤ witnessLimit := by omega
    simp [hn, throw, throwThe, MonadExceptOf.throw]
  · split
    · next h =>
      have hn : ¬ used + CompactSize.width length + length ≤ witnessLimit := by omega
      simp [hn, throw, throwThe, MonadExceptOf.throw]
    · next h =>
      have hy : used + CompactSize.width length + length ≤ witnessLimit := by omega
      simp [hy, pure, Except.pure]

/-- The elements still to be read fit into the room that the earlier ones have left. -/
theorem run_elements_eq_ok {count : Nat} (hc : count ≤ witnessLimit) {left used : Nat}
    (hu : used ≤ witnessLimit)
    {input rest : Bytes} {w : Witness} :
    (elements count used left).run input = .ok (w, rest) ↔
      (w.length = left ∧ used + sumOver countedSize w ≤ witnessLimit) ∧
        input = w.flatMap Encode.countedBytes ++ rest := by
  -- the room used so far is within the limit at every element
  induction left generalizing used input w with
  | zero =>
    simp only [elements, run_pure_eq_ok, List.length_eq_zero_iff]
    constructor
    · intro hread
      obtain ⟨rfl, rfl⟩ := hread
      exact ⟨⟨rfl, by simpa [sumOver] using hu⟩, rfl⟩
    · intro hwrite
      obtain ⟨⟨rfl, -⟩, rfl⟩ := hwrite
      exact ⟨rfl, rfl⟩
  | succ left ih =>
    simp only [elements, run_bind_eq_ok, reads_compact_size.run_eq_ok, run_lift_eq_ok,
      reserve_eq_ok hc, run_exactly_eq_ok, run_pure_eq_ok]
    constructor
    · intro hread
      obtain ⟨n, _, ⟨hn, rfl⟩, _, _, ⟨hroom, rfl⟩, element, _, ⟨rfl, rfl⟩, others, _, h,
          rfl, rfl⟩ := hread
      obtain ⟨⟨rfl, hsum⟩, rfl⟩ := (ih hroom).mp h
      refine ⟨⟨rfl, ?_⟩, by simp [Encode.countedBytes]⟩
      simp only [sumOver, countedSize]
      omega
    · intro hwrite
      obtain ⟨⟨hl, hsum⟩, rfl⟩ := hwrite
      obtain ⟨element, others, rfl⟩ := List.exists_cons_of_length_eq_add_one hl
      simp only [sumOver, countedSize] at hsum
      have hroom : used + CompactSize.width element.length + element.length ≤
          witnessLimit := by omega
      have hn : element.length < UInt64.size := by
        have hlimit : witnessLimit < UInt64.size := by decide
        omega
      refine ⟨element.length, _, ⟨hn, by simp [Encode.countedBytes]⟩, (), _,
        ⟨hroom, rfl⟩, element, _,
        ⟨rfl, rfl⟩, others, rest, (ih hroom).mpr ⟨⟨Nat.succ.inj hl, by omega⟩, rfl⟩, rfl, rfl⟩

theorem reads : Witness.decoder.Reads Witness.encode Witness.Fits := by
  intro input w rest
  simp only [decoder, run_bind_eq_ok, reads_compact_size.run_eq_ok]
  constructor
  · intro hread
    obtain ⟨count, _, ⟨-, rfl⟩, h⟩ := hread
    rw [run_check_eq_ok] at h
    obtain ⟨hc, h⟩ := h
    obtain ⟨⟨rfl, hsum⟩, rfl⟩ := (run_elements_eq_ok (Nat.le_of_not_lt hc) (Nat.zero_le _)).mp h
    refine ⟨⟨Nat.le_of_not_lt hc, by omega⟩, by simp [Witness.encode, Encode.counted]⟩
  · intro hwrite
    obtain ⟨hw, rfl⟩ := hwrite
    have hlimit : witnessLimit < UInt64.size := by decide
    refine ⟨w.length, w.flatMap Encode.countedBytes ++ rest,
      ⟨Nat.lt_of_le_of_lt hw.count_le hlimit, ?_⟩, ?_⟩
    · simp [Witness.encode, Encode.counted]
    rw [run_check_eq_ok]
    refine ⟨Nat.not_lt.mpr hw.count_le, ?_⟩
    have hroom := hw.room_le
    exact (run_elements_eq_ok hw.count_le (Nat.zero_le _)).mpr ⟨⟨rfl, by omega⟩, rfl⟩

end Witness

namespace Transaction

/-- The plain form is used if there are inputs and none has a witness. -/
theorem uses_plain_form_iff {t : Transaction} :
    t.usesWitnessForm = false ↔ t.inputs ≠ [] ∧ ∀ input ∈ t.inputs, input.witness = [] := by
  simp only [usesWitnessForm, hasWitness, Bool.or_eq_false_iff, List.any_eq_false,
    List.isEmpty_eq_false_iff]
  constructor
  · intro hplain
    obtain ⟨hw, hn⟩ := hplain
    exact ⟨hn, fun input hi => by simpa using hw input hi⟩
  · intro hnone
    obtain ⟨hn, hw⟩ := hnone
    exact ⟨fun input hi => by simp [hw input hi], hn⟩

/-- The reader's check for a missing witness is the writer's choice of the plain form. -/
theorem lacks_witness_eq (t : Transaction) :
    (!t.inputs.isEmpty && t.inputs.all fun input => input.witness.isEmpty) =
      !t.usesWitnessForm := by
  simp [usesWitnessForm, hasWitness, Bool.and_comm, List.all_eq_not_any_not]

theorem encode_no_inputs : Encode.counted TxInput.encode [] = [0] := rfl

theorem encode_bare_inputs (inputs : List TxInput) :
    Encode.counted TxInput.encode (inputs.map TxInput.bare) =
      Encode.counted TxInput.encode inputs := by
  have h (input : TxInput) : TxInput.encode input.bare = TxInput.encode input := rfl
  simp [Encode.counted, List.flatMap_map, h]

/-- Witnesses are attached to the inputs that they were written for. -/
theorem run_attach_witnesses_eq_ok {bare : List TxInput} (hb : ∀ input ∈ bare, input.witness = [])
    {bytes rest : Bytes} {inputs : List TxInput} :
    (attachWitnesses bare).run bytes = .ok (inputs, rest) ↔
      (inputs.map TxInput.bare = bare ∧ ∀ input ∈ inputs, input.witness.Fits) ∧
        bytes = inputs.flatMap (fun input => Witness.encode input.witness) ++ rest := by
  -- witnesses stand in the order of the inputs, so each step reads one and leaves the others
  induction bare generalizing bytes inputs rest with
  | nil =>
    simp only [attachWitnesses, run_pure_eq_ok, List.map_eq_nil_iff]
    constructor
    · intro hread
      obtain ⟨rfl, rfl⟩ := hread
      simp
    · intro hwrite
      obtain ⟨⟨rfl, -⟩, rfl⟩ := hwrite
      simp
  | cons first bare ih =>
    have hfirst := hb first List.mem_cons_self
    have hbare (input : TxInput) (hi : input ∈ bare) := hb input (List.mem_cons_of_mem first hi)
    simp only [attachWitnesses, run_bind_eq_ok, Witness.reads.run_eq_ok, ih hbare, run_pure_eq_ok]
    constructor
    · intro hread
      obtain ⟨witness, _, ⟨hw, rfl⟩, others, _, ⟨⟨rfl, ho⟩, rfl⟩, rfl, rfl⟩ := hread
      refine ⟨⟨?_, ?_⟩, by simp⟩
      · obtain ⟨id, index, script, sequence, _⟩ := first
        subst hfirst
        rfl
      · intro input hi
        rcases List.mem_cons.mp hi with rfl | hi
        · exact hw
        · exact ho input hi
    · intro hwrite
      obtain ⟨⟨hm, hf⟩, rfl⟩ := hwrite
      obtain ⟨input, others, rfl, rfl, rfl⟩ := List.map_eq_cons_iff.mp hm
      refine ⟨input.witness, others.flatMap (fun input => Witness.encode input.witness) ++ rest,
        ⟨hf input List.mem_cons_self, by simp⟩, others, rest, ⟨⟨rfl, ?_⟩, rfl⟩, rfl, rfl⟩
      intro other ho
      exact hf other (List.mem_cons_of_mem input ho)

/-- What follows marker and flag is read only as the witness form of a transaction that uses it. -/
theorem reads_witness_body (version : Int32) : (witnessBody version).Reads
    (fun t => t.encodeInputs ++ t.encodeOutputs ++
      t.inputs.flatMap (fun input => Witness.encode input.witness) ++
      Encode.word32 t.lockTime)
    (fun t => (t.version = version ∧ t.usesWitnessForm = true) ∧ t.Readable) := by
  intro bytes t rest
  simp only [witnessBody, run_bind_eq_ok, TxInput.reads.counted.run_eq_ok,
    TxOutput.reads.counted.run_eq_ok]
  constructor
  · intro hread
    obtain ⟨bare, _, ⟨⟨hc, hb⟩, rfl⟩, outputs, _, ⟨⟨ho, hs⟩, rfl⟩, inputs, _, h, hend⟩ := hread
    obtain ⟨⟨rfl, hf⟩, rfl⟩ := (run_attach_witnesses_eq_ok fun input hi => (hb input hi).2).mp h
    simp only [run_check_eq_ok, run_bind_eq_ok, reads_word32.run_eq_ok, run_pure_eq_ok] at hend
    obtain ⟨hw, lockTime, _, ⟨-, rfl⟩, rfl, rfl⟩ := hend
    -- the refusal of a body without witnesses leaves only transactions that are written in this
    -- form
    rw [lacks_witness_eq ⟨version, inputs, outputs, lockTime⟩] at hw
    refine ⟨⟨⟨rfl, by simpa using hw⟩, ?_⟩, ?_⟩
    · refine { inputs := by simpa using hc, outputs := ho, scriptSigs := ?_, scripts := hs,
               witnesses := hf }
      intro input hi
      exact (hb input.bare (List.mem_map_of_mem hi)).1
    · simp [encode_bare_inputs, encodeInputs, encodeOutputs]
  · intro hwrite
    obtain ⟨⟨⟨rfl, hw⟩, ht⟩, rfl⟩ := hwrite
    have hb : ∀ input ∈ t.inputs.map TxInput.bare, input.scriptSig.length < UInt64.size ∧
        input.witness = [] := by
      intro input hi
      obtain ⟨original, ho, rfl⟩ := List.mem_map.mp hi
      exact ⟨ht.scriptSigs original ho, rfl⟩
    refine ⟨t.inputs.map TxInput.bare, _, ⟨⟨by simpa using ht.inputs, hb⟩, ?_⟩, t.outputs, _,
      ⟨⟨ht.outputs, ht.scripts⟩, rfl⟩, t.inputs, Encode.word32 t.lockTime ++ rest,
      (run_attach_witnesses_eq_ok fun input hi => (hb input hi).2).mpr ⟨⟨rfl, ht.witnesses⟩, rfl⟩,
      ?_⟩
    · simp [encode_bare_inputs, encodeInputs, encodeOutputs]
    · simp only [run_check_eq_ok, run_bind_eq_ok, reads_word32.run_eq_ok, run_pure_eq_ok]
      rw [lacks_witness_eq t]
      exact ⟨by simp [hw], t.lockTime, rest, ⟨trivial, rfl⟩, rfl, rfl⟩

/-- The reader accepts the written forms of the transactions within their limits, and nothing
else. -/
theorem reads : Transaction.decoder.Reads Transaction.encode Transaction.Readable := by
  intro bytes t rest
  simp only [decoder, run_bind_eq_ok, reads_signed32.run_eq_ok, TxInput.reads.counted.run_eq_ok]
  constructor
  · intro hread
    obtain ⟨version, _, ⟨-, rfl⟩, inputs, _, ⟨⟨hc, hi⟩, rfl⟩, h⟩ := hread
    split at h
    · next hn =>
      obtain rfl := List.isEmpty_iff.mp hn
      obtain ⟨flag, _, hflag, hbody⟩ := run_bind_eq_ok.mp h
      obtain ⟨-, rfl⟩ := reads_byte.run_eq_ok.mp hflag
      split at hbody
      · next hone =>
        subst hone
        obtain ⟨⟨⟨rfl, hw⟩, ht⟩, rfl⟩ := (reads_witness_body version).run_eq_ok.mp hbody
        refine ⟨ht, ?_⟩
        simp [encode, hw, encode_no_inputs]
      · exact (run_throw_eq_ok.mp hbody).elim
    · next hn =>
      simp only [run_bind_eq_ok, TxOutput.reads.counted.run_eq_ok, reads_word32.run_eq_ok,
        run_pure_eq_ok] at h
      obtain ⟨outputs, _, ⟨⟨ho, hs⟩, rfl⟩, lockTime, _, ⟨-, rfl⟩, rfl, rfl⟩ := h
      have hp : usesWitnessForm ⟨version, inputs, outputs, lockTime⟩ = false :=
        uses_plain_form_iff.mpr ⟨fun he => hn (List.isEmpty_iff.mpr he), fun input hm =>
          (hi input hm).2⟩
      refine ⟨{ inputs := hc, outputs := ho, scriptSigs := fun input hm => (hi input hm).1,
                scripts := hs, witnesses := ?_ }, ?_⟩
      · intro input hm
        rw [(hi input hm).2]
        exact ⟨Nat.zero_le _, Nat.zero_le _⟩
      · simp [encode, hp, encodePlain, encodeInputs, encodeOutputs]
  · intro hwrite
    obtain ⟨ht, rfl⟩ := hwrite
    cases hw : t.usesWitnessForm with
    | true =>
      -- The marker reads as an empty list of inputs, which sends the reader on to the flag.
      refine ⟨t.version, _, ⟨trivial, ?_⟩, [], 1 :: (t.encodeInputs ++ t.encodeOutputs ++
        t.inputs.flatMap (fun input => Witness.encode input.witness) ++
          Encode.word32 t.lockTime ++ rest),
        ⟨⟨by decide, by simp⟩, rfl⟩, ?_⟩
      · simp [encode, hw, encode_no_inputs]
      · rw [if_pos List.isEmpty_nil, run_bind_eq_ok]
        refine ⟨1, _, reads_byte.run_eq_ok.mpr ⟨trivial, rfl⟩, ?_⟩
        rw [if_pos rfl]
        exact (reads_witness_body t.version).run_eq_ok.mpr ⟨⟨⟨rfl, hw⟩, ht⟩, rfl⟩
    | false =>
      obtain ⟨hn, he⟩ := uses_plain_form_iff.mp hw
      refine ⟨t.version, _, ⟨trivial, ?_⟩, t.inputs,
        t.encodeOutputs ++ (Encode.word32 t.lockTime ++ rest),
        ⟨⟨ht.inputs, fun input hi => ⟨ht.scriptSigs input hi, he input hi⟩⟩, rfl⟩, ?_⟩
      · simp [encode, hw, encodePlain, encodeInputs]
      · rw [if_neg fun h => hn (List.isEmpty_iff.mp h)]
        simp only [run_bind_eq_ok, TxOutput.reads.counted.run_eq_ok, reads_word32.run_eq_ok,
          run_pure_eq_ok]
        exact ⟨t.outputs, _, ⟨⟨ht.outputs, ht.scripts⟩, rfl⟩, t.lockTime, rest,
          ⟨trivial, rfl⟩, rfl, rfl⟩

end Transaction
end ChainLens
