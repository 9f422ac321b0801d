import ChainLens.Proofs.Chain.Measures
import ChainLens.Proofs.Chain.PrefixFree
import ChainLens.Proofs.Chain.Totals
import Mathlib.Algebra.BigOperators.Group.List.Basic
import Mathlib.Data.List.Forall2

/-!
Blocks and their parts. The bytes of a block can be cut in one way into a header, a count and that
many serialized transactions, although nothing marks where a transaction ends, and bytes that can be
cut so are a block. What is reported of the sizes of a block adds up from the same parts.
-/

namespace ChainLens

/-! Sums over a list. -/

theorem sum_over_map {α β : Type} (size : β → Nat) (f : α → β) (items : List α) :
    sumOver size (items.map f) = sumOver (fun a => size (f a)) items := by
  rw [sum_over_eq_sum, sum_over_eq_sum, List.map_map]
  rfl

/-- A sum is made of a lesser one and of what that one lacks, item by item. -/
theorem sum_over_eq_add {α : Type} {lesser size : α → Nat} (h : ∀ a, lesser a ≤ size a)
    (items : List α) :
    sumOver size items = sumOver lesser items + sumOver (fun a => size a - lesser a) items := by
  have hsize : size = fun a => lesser a + (size a - lesser a) :=
    funext fun a => (Nat.add_sub_of_le (h a)).symm
  calc sumOver size items
      = (items.map fun a => lesser a + (size a - lesser a)).sum := by rw [sum_over_eq_sum, ← hsize]
    _ = (items.map lesser).sum + (items.map fun a => size a - lesser a).sum := List.sum_map_add
    _ = sumOver lesser items + sumOver (fun a => size a - lesser a) items := by
        rw [sum_over_eq_sum, sum_over_eq_sum]

namespace Block

/-- A way to cut bytes into a header, a count and transactions with nothing left over. -/
structure Parts (bytes header : Bytes) (slices : List Bytes) : Prop where
  header_length : header.length = Header.size
  /-- Compact sizes go no further. -/
  count_lt : slices.length < UInt64.size
  bytes_eq : bytes = header ++ CompactSize.encode slices.length ++ slices.flatten
  accepted : ∀ slice ∈ slices, ∃ r, TxRecord.read slice = .ok r

/-- A block is written as its header, the count and its transactions one after the other. -/
theorem encode_eq_parts (b : Block) :
    b.encode =
      b.header.encode ++ CompactSize.encode (b.transactions.map Transaction.encode).length ++
      (b.transactions.map Transaction.encode).flatten := by
  rw [encode, Encode.counted, List.flatMap_def, List.length_map, List.append_assoc]

/-- The written form of a block can be cut into its parts. -/
theorem Readable.parts {b : Block} (h : b.Readable) :
    Parts b.encode b.header.encode (b.transactions.map Transaction.encode) where
  header_length := b.header.length_encode
  count_lt := by
    rw [List.length_map]
    exact h.count_lt
  bytes_eq := b.encode_eq_parts
  accepted slice hslice := by
    obtain ⟨t, ht, rfl⟩ := List.mem_map.mp hslice
    exact ⟨_, TxRecord.read_encode (h.transactions t ht)⟩

/-- Slices that are accepted one by one are the written forms of a list of transactions. -/
theorem exists_transactions {slices : List Bytes}
    (h : ∀ slice ∈ slices, ∃ r, TxRecord.read slice = .ok r) :
    ∃ transactions : List Transaction, (∀ t ∈ transactions, t.Readable) ∧
      transactions.map Transaction.encode = slices := by
  induction slices with
  | nil => exact ⟨[], fun t ht => absurd ht List.not_mem_nil, rfl⟩
  | cons slice slices ih =>
    obtain ⟨transactions, hreadable, rfl⟩ :=
      ih fun other hother => h other (List.mem_cons_of_mem slice hother)
    obtain ⟨r, hr⟩ := h slice List.mem_cons_self
    obtain ⟨t, ht, -⟩ := TxRecord.read_eq_ok.mp hr
    obtain ⟨hfirst, rfl⟩ := Transaction.decode_eq_ok.mp ht
    refine ⟨t :: transactions, ?_, rfl⟩
    intro u hu
    rcases List.mem_cons.mp hu with rfl | hu
    · exact hfirst
    · exact hreadable u hu

/-- Bytes are cut as the block that they are read as, and in no other way. -/
theorem parts_iff {bytes header : Bytes} {slices : List Bytes} :
    Parts bytes header slices ↔
      ∃ b, Block.decode bytes = .ok b ∧ b.header.encode = header ∧
      b.transactions.map Transaction.encode = slices := by
  constructor
  · intro h
    obtain ⟨first, rfl⟩ := Header.exists_encode_eq h.header_length
    obtain ⟨transactions, hreadable, rfl⟩ := exists_transactions h.accepted
    have hcount : transactions.length < UInt64.size := by
      have hslices := h.count_lt
      rwa [List.length_map] at hslices
    have hwhole : bytes = Block.encode ⟨first, transactions⟩ := by
      rw [encode_eq_parts]
      exact h.bytes_eq
    exact ⟨⟨first, transactions⟩, decode_eq_ok.mpr ⟨⟨hcount, hreadable⟩, hwhole⟩, rfl, rfl⟩
  · intro h
    obtain ⟨b, hb, rfl, rfl⟩ := h
    obtain ⟨hreadable, rfl⟩ := decode_eq_ok.mp hb
    exact hreadable.parts

/-- Bytes are a block just when they can be cut into parts. The parts are those of the block that
was read: there are no others, its written form puts them together again, and every transaction is
recorded alike from its slice. -/
theorem blocks_are_partitions (bytes : Bytes) :
    ((∃ b, Block.read bytes = .ok b) ↔ ∃ header slices, Parts bytes header slices) ∧
      ∀ b, Block.read bytes = .ok b →
        b.encode = bytes ∧
        ∃ slices, Parts bytes b.header.encode slices ∧
          (∀ header' slices', Parts bytes header' slices' → header' = b.header.encode ∧
            slices' = slices) ∧
          List.Forall₂ (fun t slice =>
            TxRecord.read slice = .ok (TxRecord.ofTransaction t)) b.transactions slices := by
  constructor
  · constructor
    · intro h
      obtain ⟨b, hb⟩ := h
      exact ⟨_, _, parts_iff.mpr ⟨b, read_eq_ok.mp hb, rfl, rfl⟩⟩
    · intro h
      obtain ⟨header, slices, hparts⟩ := h
      obtain ⟨b, hb, -, -⟩ := parts_iff.mp hparts
      exact ⟨b, read_eq_ok.mpr hb⟩
  · intro b hb
    have hdecode : Block.decode bytes = .ok b := read_eq_ok.mp hb
    obtain ⟨hreadable, hbytes⟩ := decode_eq_ok.mp hdecode
    refine ⟨hbytes.symm, b.transactions.map Transaction.encode,
      parts_iff.mpr ⟨b, hdecode, rfl, rfl⟩, ?_, ?_⟩
    · intro header' slices' hother
      -- another way to cut the bytes would make another block of them
      obtain ⟨b', hb', rfl, rfl⟩ := parts_iff.mp hother
      obtain rfl : b' = b := Except.ok.inj (hb'.symm.trans hdecode)
      exact ⟨rfl, rfl⟩
    · rw [List.forall₂_map_right_iff, List.forall₂_same]
      intro t ht
      exact TxRecord.read_encode (hreadable.transactions t ht)

/-- A block of two transactions can be cut in one way only. -/
theorem blocks_are_partitions_of_a_pair :
    Block.read pairBlockBytes = .ok pairBlock ∧ pairBlock.encode = pairBlockBytes ∧
      Parts pairBlockBytes (pairBlockBytes.take 80)
        [TxRecord.twoElementsBytes, TxRecord.noInputsBytes] ∧
      ∀ header slices, Parts pairBlockBytes header slices →
        slices = [TxRecord.twoElementsBytes, TxRecord.noInputsBytes] := by
  have hread : Block.read pairBlockBytes = .ok pairBlock := read_eq_ok.mpr decode_pair_block
  obtain ⟨hencode, slices, hparts, hunique, -⟩ :=
    (blocks_are_partitions pairBlockBytes).2 pairBlock hread
  have hheader : pairBlock.header.encode = pairBlockBytes.take 80 := by decide
  have hslices : pairBlock.transactions.map Transaction.encode =
      [TxRecord.twoElementsBytes, TxRecord.noInputsBytes] := by decide
  have hcut := parts_iff.mpr ⟨pairBlock, decode_pair_block, hheader, hslices⟩
  refine ⟨hread, hencode, hcut, ?_⟩
  intro header other hother
  rw [(hunique header other hother).2, ← (hunique _ _ hcut).2]

/-- The sizes under which a block is reported are those of its bytes and of the block without
witnesses. -/
structure SizesHold (b : Block) (bytes : Bytes) : Prop where
  /-- The total can be taken off the weight, and what is left divides by three. -/
  total_le_weight : b.totalSize ≤ b.weight
  three_dvd : 3 ∣ b.weight - b.totalSize
  total : b.sizes.total = bytes.length
  stripped : b.sizes.stripped = b.encodePlain.length
  weight : b.sizes.weight = 3 * b.sizes.stripped + b.sizes.total
  /-- The weight has 64 bits as long as four times the length has. -/
  weight_lt : 4 * bytes.length < UInt64.size → b.sizes.weight < UInt64.size
  stripped_le : b.sizes.stripped ≤ b.sizes.total
  discount : b.sizes.total - b.sizes.stripped =
    sumOver (fun r => r.size - r.baseSize) (b.transactions.map TxRecord.ofTransaction)

/-- The bytes of witnesses in a block are those in its transactions. -/
theorem total_size_sub_base_size (b : Block) :
    b.totalSize - b.baseSize =
      sumOver (fun r => r.size - r.baseSize) (b.transactions.map TxRecord.ofTransaction) :=
  calc b.totalSize - b.baseSize
      = sumOver Transaction.totalSize b.transactions -
          sumOver Transaction.baseSize b.transactions :=
        Nat.add_sub_add_left ..
    _ = sumOver (fun t => t.totalSize - t.baseSize) b.transactions := by
        rw [sum_over_eq_add Transaction.base_size_le, Nat.add_sub_cancel_left]
    _ = sumOver (fun r => r.size - r.baseSize) (b.transactions.map TxRecord.ofTransaction) := by
        rw [sum_over_map]
        rfl

/-- Of every block that is read the stripped size is recovered exactly, and it falls short of the
total by what the transactions are discounted. -/
theorem block_sizes_hold {bytes : Bytes} {b : Block} (h : Block.read bytes = .ok b) :
    b.SizesHold bytes := by
  obtain ⟨-, rfl⟩ := decode_eq_ok.mp (read_eq_ok.mp h)
  have hweight : b.weight = 3 * b.baseSize + b.totalSize := rfl
  have hle : b.baseSize ≤ b.totalSize := by
    have hsum := sum_over_eq_add Transaction.base_size_le b.transactions
    rw [baseSize, totalSize]
    omega
  have hstripped : b.sizes.stripped = b.baseSize := by rw [sizes_eq, length_encode_plain]
  have htotal : b.sizes.total = b.totalSize := rfl
  have hsum : b.sizes.weight = b.weight := rfl
  refine { total_le_weight := by omega, three_dvd := by omega,
           total := htotal.trans b.length_encode.symm,
           stripped := hstripped.trans b.length_encode_plain.symm, weight := by omega,
           weight_lt := ?_, stripped_le := by omega, discount := ?_ }
  · intro hlength
    rw [length_encode] at hlength
    omega
  · rw [hstripped, htotal]
    exact b.total_size_sub_base_size

/-- The marker and the flag of the transaction without inputs are part of the discount. -/
theorem block_sizes_hold_of_a_pair :
    Block.read pairBlockBytes = .ok pairBlock ∧ pairBlock.SizesHold pairBlockBytes ∧
      pairBlock.sizes = { stripped := 152, total := 161, weight := 617 } := by
  have hread : Block.read pairBlockBytes = .ok pairBlock := read_eq_ok.mpr decode_pair_block
  exact ⟨hread, block_sizes_hold hread, by decide⟩

end Block
end ChainLens
