import ChainLens.Proofs.Chain.BlockForm

/-!
Sizes against written forms. Every size that is computed from the fields of a transaction or a block
is the length of a written form: the whole one, or the plain one that leaves the witnesses out.
-/

namespace ChainLens

theorem Encode.length_word64 (w : UInt64) : (Encode.word64 w).length = 8 :=
  LittleEndian.length_encode 8 _

theorem Encode.length_counted_bytes (bytes : Bytes) :
    (Encode.countedBytes bytes).length = countedSize bytes := by
  rw [Encode.countedBytes, List.length_append, CompactSize.length_encode, countedSize]

/-- A counted list is as long as its count and its items, if `size` is the length of an item. -/
theorem Encode.length_counted {α : Type} {item : α → Bytes} {size : α → Nat}
    (h : ∀ a, (item a).length = size a)
    (items : List α) :
    (Encode.counted item items).length = CompactSize.width items.length + sumOver size items := by
  have hsize : (fun a => (item a).length) = size := funext h
  rw [Encode.counted, List.length_append, CompactSize.length_encode, length_flatMap_eq_sumOver,
    hsize]

theorem TxInput.length_encode (input : TxInput) : input.encode.length = input.size := by
  simp only [encode, List.length_append, Hash256.length_eq, Encode.length_word32,
    Encode.length_counted_bytes, size]
  omega

theorem TxOutput.length_encode (output : TxOutput) : output.encode.length = output.size := by
  simp only [encode, List.length_append, Encode.length_word64, Encode.length_counted_bytes, size]

theorem Witness.length_encode (w : Witness) : w.encode.length = w.size :=
  Encode.length_counted Encode.length_counted_bytes w

namespace Transaction

theorem length_encode_inputs (t : Transaction) :
    t.encodeInputs.length = CompactSize.width t.inputs.length + sumOver TxInput.size t.inputs :=
  Encode.length_counted TxInput.length_encode t.inputs

theorem length_encode_outputs (t : Transaction) :
    t.encodeOutputs.length = CompactSize.width t.outputs.length + sumOver TxOutput.size t.outputs :=
  Encode.length_counted TxOutput.length_encode t.outputs

theorem length_encode_plain (t : Transaction) : t.encodePlain.length = t.baseSize := by
  simp only [encodePlain, List.length_append, Encode.length_signed32, Encode.length_word32,
    length_encode_inputs, length_encode_outputs, baseSize]
  omega

/-- The total size is the number of bytes written. -/
theorem length_encode (t : Transaction) : t.encode.length = t.totalSize := by
  have hwitnesses : (t.inputs.flatMap fun input => Witness.encode input.witness).length =
      sumOver (fun input => Witness.size input.witness) t.inputs := by
    have hsize : (fun input : TxInput => (Witness.encode input.witness).length) =
        fun input => Witness.size input.witness :=
          funext fun input => Witness.length_encode input.witness
    rw [length_flatMap_eq_sumOver, hsize]
  rw [encode, totalSize]
  by_cases hform : t.usesWitnessForm = true
  · rw [if_pos hform, if_pos hform]
    -- marker and flag are two bytes more, and the lock time stands behind the witnesses
    simp only [List.length_append, Encode.length_signed32, Encode.length_word32,
      length_encode_inputs, length_encode_outputs, hwitnesses, baseSize, List.length_cons,
      List.length_nil]
    omega
  · rw [if_neg hform, if_neg hform, length_encode_plain]

end Transaction

namespace Block

def encodePlain (b : Block) : Bytes :=
  b.header.encode ++ Encode.counted Transaction.encodePlain b.transactions

theorem length_encode (b : Block) : b.encode.length = b.totalSize := by
  rw [encode, List.length_append, Header.length_encode,
    Encode.length_counted Transaction.length_encode, totalSize, overhead, Nat.add_assoc]

theorem length_encode_plain (b : Block) : b.encodePlain.length = b.baseSize := by
  rw [encodePlain, List.length_append, Header.length_encode,
    Encode.length_counted Transaction.length_encode_plain, baseSize, overhead, Nat.add_assoc]

/-- The sizes of a block are the lengths of its two forms and the weight that they make up. -/
theorem sizes_eq (b : Block) :
    b.sizes = { stripped := b.encodePlain.length, total := b.encode.length,
                weight := ChainLens.weight b.encodePlain.length b.encode.length } := by
  have hstripped : (b.weight - b.totalSize) / 3 = b.baseSize := by
    rw [weight, ChainLens.weight]
    omega
  rw [sizes, hstripped, length_encode, length_encode_plain]
  rfl

end Block
end ChainLens
