import ChainLens.Proofs.Chain.Sizes
import ChainLens.Proofs.Explorer.Identity

/-!
What a report of a block vouches for. A block is reported under a hash only if eighty bytes that the
source served hash to it, and all that these bytes decide is taken from them. Anything else served
in their place is malformed data.
-/

namespace ChainLens

namespace Explorer

open Lookup

/-- Where the header of a block is looked for: in the bytes of the block, or among the facts about
it if the source serves no bytes of blocks. -/
inductive HeaderIn (source : Source Id) (hash : BlockHash) : Bytes → Prop
  | whole {bytes : Bytes} (hbytes : source.answer (.blockBytes hash) = .ok bytes) :
    HeaderIn source hash bytes
  | listed {bytes : Bytes} {facts : BlockFacts} {ability : Ability}
      (hbytes : source.answer (.blockBytes hash) = .error (.unsupported ability))
      (hfacts : source.answer (.blockFacts hash) = .ok facts)
      (hheader : facts.header = some bytes) :
    HeaderIn source hash bytes

/-- The report is about the block in these bytes. -/
structure Restates (r : BlockReport) (bytes : Bytes) : Prop where
  txids : ∃ b, Block.decode bytes = .ok b ∧ r.txids = b.transactions.map Transaction.txid ∧
    r.strippedSize = b.encodePlain.length
  size : r.size = bytes.length
  weight : r.weight = 3 * r.strippedSize + r.size

structure Attested (source : Source Id) (hash : BlockHash) (r : BlockReport) : Prop where
  hash_eq : r.hash = hash
  length_eq : r.header.length = 80
  double_eq : Hash256.double r.header = hash
  fields : Header.read r.header = .ok ⟨r.version, r.previous, r.merkleRoot, r.time, r.bits, r.nonce⟩
  served : ∃ bytes, HeaderIn source hash bytes ∧ r.header = bytes.take 80
  whole : ∀ bytes, source.answer (.blockBytes hash) = .ok bytes → Restates r bytes

variable {source : Source Id} {hash : BlockHash} {facts : BlockFacts} {bytes : Bytes}
    {loaded : LoadedBlock}

/-- A header passes when it hashes to what was asked for. -/
theorem check_hash_eq_ok_iff {header : Header} {u : Unit} :
    checkHash header hash = .ok u ↔ header.hash = hash := by
  rw [checkHash]
  by_cases h : header.hash = hash
  · rw [if_pos h]
    exact iff_of_true rfl h
  · rw [if_neg h]
    refine iff_of_false ?_ h
    intro hfailed
    cases hfailed

/-- A block is made of bytes that decode under the hash asked for. -/
theorem from_bytes_eq_ok_iff :
    fromBytes hash facts bytes = .ok loaded ↔
      ∃ b, Block.decode bytes = .ok b ∧ b.header.hash = hash ∧
        loaded = ⟨reportOf b facts.height, some b.transactions⟩ := by
  simp only [fromBytes, bind_eq_ok, Block.read_eq_ok, check_hash_eq_ok_iff]
  constructor
  · intro h
    obtain ⟨b, hb, -, hhash, hl⟩ := h
    exact ⟨b, hb, hhash, (Except.ok.inj hl).symm⟩
  · intro h
    obtain ⟨b, hb, hhash, hl⟩ := h
    exact ⟨b, hb, (), hhash, congrArg Except.ok hl.symm⟩

/-- A block is made of facts with a header of the hash asked for; its sizes are those stated. -/
theorem from_facts_eq_ok_iff :
    fromFacts hash facts = .ok loaded ↔
      ∃ bytes header, facts.header = some bytes ∧ Header.read bytes = .ok header ∧
      header.hash = hash ∧
        loaded =
          ⟨describeBlock header facts.height
            ⟨facts.strippedSize, facts.size, facts.weight⟩ facts.txids, none⟩ := by
  cases hheader : facts.header with
  | none =>
    simp only [fromFacts, hheader]
    constructor
    · intro h
      cases h
    · intro h
      obtain ⟨_, _, habsent, -⟩ := h
      cases habsent
  | some bytes =>
    simp only [fromFacts, hheader, bind_eq_ok, check_hash_eq_ok_iff]
    constructor
    · intro h
      obtain ⟨header, hread, -, hhash, hl⟩ := h
      exact ⟨bytes, header, rfl, hread, hhash, (Except.ok.inj hl).symm⟩
    · intro h
      obtain ⟨_, header, hsame, hread, hhash, hl⟩ := h
      obtain rfl := Option.some.inj hsame
      exact ⟨header, hread, (), hhash, congrArg Except.ok hl.symm⟩

/-- With the facts known, a block is loaded from its bytes, or from the facts where the source
serves no bytes. -/
theorem outcome_load (hfacts : source.answer (.blockFacts hash) = Except.ok facts) :
    (load hash).outcome source = match source.answer (.blockBytes hash) with
      | .ok bytes => (fromBytes hash facts bytes).mapError .malformed
      | .error (.unsupported _) => (fromFacts hash facts).mapError .malformed
      | .error failure => .error failure := by
  rw [load, outcome_attempt_bind, outcome_ask_bind, hfacts]
  cases hbytes : source.answer (.blockBytes hash) with
  | ok bytes => exact outcome_sound source _
  | error failure =>
    cases failure with
    | unsupported ability => exact outcome_sound source _
    | _ => rfl

/-- A block that is read from served bytes is vouched for. -/
theorem attested_of_whole (hbytes : source.answer (.blockBytes hash) = .ok bytes)
    (hload : fromBytes hash facts bytes = .ok loaded) : Attested source hash loaded.report := by
  obtain ⟨b, hdecode, hhash, rfl⟩ := from_bytes_eq_ok_iff.mp hload
  have hwritten : bytes = b.encode := (Block.decode_eq_ok.mp hdecode).2
  have hfront : b.header.encode = bytes.take 80 := by
    rw [hwritten]
    exact b.take_encode.symm
  refine { hash_eq := hhash, length_eq := b.header.length_encode, double_eq := hhash,
           fields := b.header.read_encode, served := ⟨bytes, .whole hbytes, hfront⟩, whole := ?_ }
  intro served hserved
  -- the source has one answer for the hash, so what it served is what was read
  have hsame : bytes = served := Except.ok.inj (hbytes.symm.trans hserved)
  rw [← hsame]
  have hsizes := b.sizes_eq
  refine ⟨⟨b, hdecode, rfl, congrArg BlockSizes.stripped hsizes⟩, ?_, ?_⟩
  · rw [hwritten]
    exact congrArg BlockSizes.total hsizes
  · change b.sizes.weight = 3 * b.sizes.stripped + b.sizes.total
    rw [hsizes]
    rfl

/-- So is a block of which only the header is served: nothing that the header decides comes from
elsewhere. -/
theorem attested_of_listed {ability : Ability}
    (hfacts : source.answer (.blockFacts hash) = .ok facts)
    (hbytes : source.answer (.blockBytes hash) = .error (.unsupported ability))
    (hload : fromFacts hash facts = .ok loaded) : Attested source hash loaded.report := by
  obtain ⟨bytes, header, hlisted, hread, hhash, rfl⟩ := from_facts_eq_ok_iff.mp hload
  have hfront : header.encode = bytes.take 80 := (Header.read_eq_ok_iff.mp hread).symm
  refine { hash_eq := hhash, length_eq := header.length_encode, double_eq := hhash,
           fields := header.read_encode, served := ⟨bytes, .listed hbytes hfacts hlisted, hfront⟩,
           whole := ?_ }
  intro served hserved
  rw [hbytes] at hserved
  cases hserved

/-- Every block that is loaded vouches for the hash it was asked for by. -/
theorem attested_of_load (hload : (load hash).outcome source = .ok loaded) :
    Attested source hash loaded.report := by
  cases hfacts : source.answer (.blockFacts hash) with
  | error failure =>
    rw [load, outcome_attempt_bind, outcome_ask_bind, hfacts] at hload
    cases hload
  | ok facts =>
    rw [outcome_load hfacts] at hload
    cases hbytes : source.answer (.blockBytes hash) with
    | ok bytes =>
      rw [hbytes] at hload
      exact attested_of_whole hbytes (mapError_eq_ok.mp hload)
    | error failure =>
      rw [hbytes] at hload
      cases failure with
      | unsupported ability => exact attested_of_listed hfacts hbytes (mapError_eq_ok.mp hload)
      | _ => cases hload

/-- Bytes that do not begin with the header asked for hold no block of that name. -/
theorem from_bytes_of_other (hother : Hash256.double (bytes.take 80) ≠ hash) :
    ∃ flaw, fromBytes hash facts bytes = .error flaw := by
  cases hread : fromBytes hash facts bytes with
  | error flaw => exact ⟨flaw, rfl⟩
  | ok loaded =>
    obtain ⟨b, hdecode, hhash, -⟩ := from_bytes_eq_ok_iff.mp hread
    have hfront : bytes.take 80 = b.header.encode := by
      rw [(Block.decode_eq_ok.mp hdecode).2]
      exact b.take_encode
    rw [hfront] at hother
    exact absurd hhash hother

theorem from_facts_of_other (hheader : facts.header = some bytes)
    (hother : Hash256.double (bytes.take 80) ≠ hash) :
    ∃ flaw, fromFacts hash facts = .error flaw := by
  cases hread : fromFacts hash facts with
  | error flaw => exact ⟨flaw, rfl⟩
  | ok loaded =>
    obtain ⟨front, header, hfound, hdecode, hhash, -⟩ := from_facts_eq_ok_iff.mp hread
    have hsame : bytes = front := Option.some.inj (hheader.symm.trans hfound)
    have hfront : bytes.take 80 = header.encode := by
      rw [hsame]
      exact Header.read_eq_ok_iff.mp hdecode
    rw [hfront] at hother
    exact absurd hhash hother

/-- A header that hashes to something else makes the block malformed, on either path. -/
theorem outcome_load_of_other (hfacts : source.answer (.blockFacts hash) = Except.ok facts)
    (hserved : HeaderIn source hash bytes) (hother : Hash256.double (bytes.take 80) ≠ hash) :
    ∃ flaw, (load hash).outcome source = .error (.malformed flaw) := by
  have hload := outcome_load hfacts
  cases hserved with
  | whole hbytes =>
    have hnone : ∃ flaw, fromBytes hash facts bytes = .error flaw := from_bytes_of_other hother
    obtain ⟨flaw, hflaw⟩ := hnone
    simp only [hbytes, hflaw] at hload
    exact ⟨flaw, hload⟩
  | listed hbytes hlisted hheader =>
    obtain rfl := Except.ok.inj (hlisted.symm.trans hfacts)
    obtain ⟨flaw, hflaw⟩ := from_facts_of_other hheader hother
    simp only [hbytes, hflaw] at hload
    exact ⟨flaw, hload⟩

/-- Whatever the source, a report under a hash restates eighty bytes that were served and that hash
to it. If the facts about the block are known and the bytes in the place of its header hash to
anything else, the data is malformed. -/
theorem block_vouches_for_hash (source : Source Id) (hash : BlockHash) :
    (∀ r, (blockByHash hash).outcome source = .ok r → Attested source hash r) ∧
    ∀ facts bytes, source.answer (.blockFacts hash) = Except.ok facts → HeaderIn source hash bytes →
      Hash256.double (bytes.take 80) ≠ hash →
      ∃ flaw, (blockByHash hash).outcome source = .error (.malformed flaw) := by
  constructor
  · intro r hr
    rw [outcome_block_by_hash] at hr
    obtain ⟨loaded, hload, hreport⟩ := bind_eq_ok.mp hr
    rw [← Except.ok.inj hreport]
    exact attested_of_load hload
  · intro facts bytes hfacts hserved hother
    obtain ⟨flaw, hload⟩ := outcome_load_of_other hfacts hserved hother
    refine ⟨flaw, ?_⟩
    rw [outcome_block_by_hash, hload]
    rfl

/-- A block under its own hash is vouched for, and its header is refused under another. -/
theorem block_vouches_for_hash_single :
    Attested (wholeTable singleBlock.header.hash singleBlockBytes TxRecord.twoElements).source
      singleBlock.header.hash
      (reportOf singleBlock 5) ∧
    ∃ flaw, (blockByHash Hash256.zero).outcome
      (listingTable Hash256.zero singleBlockBytes TxRecord.twoElements singleBlock.sizes).source =
        .error (.malformed flaw) := by
  constructor
  · have hserved :=
      tables_serve_both_ways singleBlock.header.hash singleBlockBytes TxRecord.twoElements
      singleBlock.header
    have hd : Block.decode singleBlockBytes = .ok singleBlock := by rfl
    have hload := (hserved.load_eq hd).1
    rw [if_pos rfl] at hload
    exact (block_vouches_for_hash _ _).1 _ (outcome_block_of_load hload)
  · have hserved :=
      tables_serve_both_ways Hash256.zero singleBlockBytes TxRecord.twoElements singleBlock.header
    obtain ⟨ability, hno⟩ := hserved.no_bytes
    obtain ⟨facts, hfacts, -, -, -, -, hheader, -⟩ := hserved.listed
    apply (block_vouches_for_hash _ _).2 facts (singleBlockBytes.take 80) hfacts
      (.listed hno hfacts hheader)
    decide +kernel

end Explorer
end ChainLens
