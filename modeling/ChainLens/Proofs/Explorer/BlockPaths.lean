import ChainLens.Explorer.Blocks
import ChainLens.Proofs.Chain.BlockForm
import ChainLens.Proofs.Chain.RecordRoundTrip
import ChainLens.Proofs.Explorer.SpentOutputs
import ChainLens.Source.Table

/-!
The two ways to a block. A source that serves its bytes and one that serves its header, sizes and
ids lead to the same reports, with all transactions, as long as they answer alike about the chain
and about transactions.
-/

namespace ChainLens

theorem Table.find_cons_self {κ α : Type} [DecidableEq κ] (name : String)
    (show' : κ → String) (key : κ)
    (entry : Except Failure α) (rest : Entries κ α) :
    Table.find name show' ((key, entry) :: rest) key = entry := by
  simp [Table.find]

namespace Explorer

open Lookup

/-- One source serves the bytes of a block under a hash. The other has no bytes of blocks, but the
height, the sizes, the ids and the header. Both answer alike about the chain and about transactions,
those of the block included. -/
structure ServedBothWays (hash : BlockHash) (bytes : Bytes) (b : Block) (height : Height)
    (whole listing : Source Id) : Prop where
  tip : whole.answer .tip = listing.answer .tip
  blockAt : ∀ n, whole.answer (.blockAt n) = listing.answer (.blockAt n)
  transactionBytes : ∀ id, whole.answer (.transactionBytes id) =
    listing.answer (.transactionBytes id)
  known : ∀ t ∈ b.transactions, whole.answer (.transactionBytes t.txid) = .ok t.encode
  bytes_eq : whole.answer (.blockBytes hash) = .ok bytes
  facts : ∃ facts, whole.answer (.blockFacts hash) = .ok facts ∧ facts.height = height
  no_bytes : ∃ ability, listing.answer (.blockBytes hash) = .error (.unsupported ability)
  listed : ∃ facts, listing.answer (.blockFacts hash) = .ok facts ∧ facts.height = height ∧
    facts.size = b.sizes.total ∧ facts.strippedSize = b.sizes.stripped ∧
      facts.weight = b.sizes.weight ∧
    facts.header = some (bytes.take 80) ∧ facts.txids = b.transactions.map Transaction.txid

def reportOf (b : Block) (height : Height) : BlockReport :=
  describeBlock b.header height b.sizes (b.transactions.map Transaction.txid)

/-- A source that serves bytes is believed about the height alone. -/
theorem outcome_load_whole {source : Source Id} {hash : BlockHash} {bytes : Bytes} {b : Block}
    {facts : BlockFacts}
    (hb : source.answer (.blockBytes hash) = .ok bytes)
    (hf : source.answer (.blockFacts hash) = .ok facts)
    (hd : Block.decode bytes = .ok b) :
    (load hash).outcome source =
      if b.header.hash = hash then .ok ⟨reportOf b facts.height, some b.transactions⟩
      else .error (.malformed (.wrongBlock b.header.hash hash)) := by
  have hl : (load hash).outcome source = (fromBytes hash facts bytes).mapError .malformed := by
    rw [load, outcome_attempt_bind, outcome_ask_bind, hb, hf]
    exact outcome_sound source _
  by_cases hh : b.header.hash = hash
  · rw [hl, if_pos hh, fromBytes, Block.read_eq_ok.mpr hd]
    simp only [bind, Except.bind, checkHash, if_pos hh]
    rfl
  · rw [hl, if_neg hh, fromBytes, Block.read_eq_ok.mpr hd]
    simp only [bind, Except.bind, checkHash, if_neg hh]
    rfl

/-- Without bytes, the facts and the header among them make up the block. -/
theorem outcome_load_listed {source : Source Id} {hash : BlockHash} {b : Block} {facts : BlockFacts}
    {ability : Ability}
    (hb : source.answer (.blockBytes hash) = .error (.unsupported ability))
    (hf : source.answer (.blockFacts hash) = .ok facts) (hh : facts.header = some b.header.encode)
    (hs : (⟨facts.strippedSize, facts.size, facts.weight⟩ : BlockSizes) = b.sizes)
    (ht : facts.txids = b.transactions.map Transaction.txid) :
    (load hash).outcome source =
      if b.header.hash = hash then .ok ⟨reportOf b facts.height, none⟩
      else .error (.malformed (.wrongBlock b.header.hash hash)) := by
  have hl : (load hash).outcome source = (fromFacts hash facts).mapError .malformed := by
    rw [load, outcome_attempt_bind, outcome_ask_bind, hb, hf]
    exact outcome_sound source _
  have hr := b.header.read_encode
  by_cases he : b.header.hash = hash
  · simp only [hl, if_pos he, fromFacts, hh, hr, hs, ht, bind, Except.bind, checkHash]
    rfl
  · simp only [hl, if_neg he, fromFacts, hh, hr, bind, Except.bind, checkHash]
    rfl

def completed (network : Network) (loaded : LoadedBlock) : Lookup FullBlockReport := do
  let location : Location :=
    { block := some loaded.report.hash, height := some loaded.report.height }
  let transactions ← match loaded.transactions with
    | some ts => ts.mapM fun t => report network (TxRecord.ofTransaction t) location
    | none => loaded.report.txids.mapM fun id => listedTransaction network location id
  return { block := loaded.report, transactions }

theorem full_block_eq (network : Network) (ref : BlockRef) :
    fullBlock network ref = resolve ref >>= fun hash => load hash >>= completed network := rfl

variable {hash : BlockHash} {bytes : Bytes} {b : Block} {height : Height}
    {whole listing : Source Id}

/-- Both sources load the block under its own hash, and neither under another. -/
theorem ServedBothWays.load_eq (hs : ServedBothWays hash bytes b height whole listing)
    (hd : Block.decode bytes = .ok b) :
    (load hash).outcome whole =
        (if b.header.hash = hash then .ok ⟨reportOf b height, some b.transactions⟩
          else .error (.malformed (.wrongBlock b.header.hash hash))) ∧
      (load hash).outcome listing =
        (if b.header.hash = hash then .ok ⟨reportOf b height, none⟩
          else .error (.malformed (.wrongBlock b.header.hash hash))) := by
  obtain ⟨facts, hf, hh⟩ := hs.facts
  obtain ⟨ability, hn⟩ := hs.no_bytes
  obtain ⟨listed, hl, hlh, hsize, hstripped, hweight, hheader, htxids⟩ := hs.listed
  have hb := (Block.decode_eq_ok.mp hd).2
  have hfront : listed.header = some b.header.encode := by
    rw [hheader, hb]
    exact congrArg some b.take_encode
  have hsizes : (⟨listed.strippedSize, listed.size, listed.weight⟩ : BlockSizes) = b.sizes := by
    rw [hsize, hstripped, hweight]
  constructor
  · rw [outcome_load_whole hs.bytes_eq hf hd, hh]
  · rw [outcome_load_listed hn hl hfront hsizes htxids, hlh]

/-- A listed transaction is reported from the bytes served for it. -/
theorem outcome_listed_transaction {source : Source Id} {t : Transaction} (ht : t.Readable)
    (hk : source.answer (.transactionBytes t.txid) = .ok t.encode) (network : Network)
    (location : Location) :
    (listedTransaction network location t.txid).outcome source =
      (report network (TxRecord.ofTransaction t) location).outcome source := by
  rw [listedTransaction, outcome_ask_bind, hk]
  simp only [Except.bind, outcome_bind, outcome_sound, TxRecord.read_encode ht]
  rfl

/-- From the loaded block on, two sources lead to the same reports in the same order if they know
the same of what is spent, and the one that has to fetch the transactions of the block gets them. -/
theorem completed_congr
    (hspent : ∀ id, spentRecord? (whole.answer (.transactionBytes id)) =
      spentRecord? (listing.answer (.transactionBytes id)))
    (hb : b.Readable)
    (hknown : ∀ t ∈ b.transactions, listing.answer (.transactionBytes t.txid) = .ok t.encode)
    (network : Network) :
    (completed network ⟨reportOf b height, some b.transactions⟩).outcome whole =
      (completed network ⟨reportOf b height, none⟩).outcome listing := by
  -- what one source decoded within the block, the other has to fetch and decode by itself
  have hone : ∀ t ∈ b.transactions,
      (report network (TxRecord.ofTransaction t) ⟨some b.header.hash, some height⟩).outcome whole =
        (listedTransaction network ⟨some b.header.hash, some height⟩ t.txid).outcome listing := by
    intro t ht
    rw [outcome_listed_transaction (hb.transactions t ht) (hknown t ht)]
    exact outcome_report_congr hspent network _ _ height
  have hall : b.transactions.mapM (fun t => (report network (TxRecord.ofTransaction t)
        ⟨some b.header.hash, some height⟩).outcome whole) =
      (b.transactions.map Transaction.txid).mapM fun id =>
        (listedTransaction network ⟨some b.header.hash, some height⟩ id).outcome listing := by
    rw [List.mapM_map]
    exact mapM_congr_of_mem hone
  simp only [completed, outcome_bind, outcome_mapM, outcome_pure]
  exact congrArg (· >>= _) hall

/-- Reported from the block itself or fetched one by one, the transactions are the same. -/
theorem ServedBothWays.completed_eq (hs : ServedBothWays hash bytes b height whole listing)
    (hd : Block.decode bytes = .ok b) (network : Network) :
    (completed network ⟨reportOf b height, some b.transactions⟩).outcome whole =
      (completed network ⟨reportOf b height, none⟩).outcome listing := by
  apply completed_congr (fun id => congrArg spentRecord? (hs.transactionBytes id))
    (Block.decode_eq_ok.mp hd).1
  intro t ht
  rw [← hs.transactionBytes]
  exact hs.known t ht

/-- A reference leads to the same hash at both sources. -/
theorem ServedBothWays.resolve_eq (hs : ServedBothWays hash bytes b height whole listing)
    (ref : BlockRef) :
    (resolve ref).outcome whole = (resolve ref).outcome listing := by
  cases ref with
  | hash h => rfl
  | height n =>
    rw [resolve, hashAt, outcome_ask_bind, outcome_ask_bind, ← hs.tip]
    apply congrArg (Except.bind _)
    funext tip
    by_cases ht : tip < n
    · rw [if_pos ht, outcome_throw, outcome_throw]
    · rw [if_neg ht, outcome_ask, outcome_ask, hs.blockAt]

theorem outcome_block_by_hash (source : Source Id) (hash : BlockHash) :
    (blockByHash hash).outcome source = (load hash).outcome source >>= fun loaded =>
      .ok loaded.report := by
  rw [blockByHash, outcome_bind]
  rfl

theorem outcome_block_of_load {source : Source Id} {hash : BlockHash} {loaded : LoadedBlock}
    (hload : (load hash).outcome source = .ok loaded) :
    (blockByHash hash).outcome source = .ok loaded.report := by
  rw [outcome_block_by_hash, hload]
  rfl

/-- Up to the tip the source is asked for the hash at a height, and above it there is none. -/
theorem outcome_hash_at {source : Source Id} {tip : Height} (htip : source.answer .tip = .ok tip)
    (height : Height) :
    (hashAt height).outcome source =
      if tip < height then .error (.notFound (.aboveTip height tip))
      else source.answer (.blockAt height) := by
  rw [hashAt, outcome_ask_bind, htip]
  simp only [Except.bind]
  by_cases habove : tip < height
  · rw [if_pos habove, if_pos habove, outcome_throw]
  · rw [if_neg habove, if_neg habove, outcome_ask]

theorem outcome_block_resolved (source : Source Id) (ref : BlockRef) :
    (block ref).outcome source =
      (resolve ref).outcome source >>= fun hash => (load hash).outcome source >>= fun loaded =>
        .ok loaded.report := by
  rw [block, outcome_bind]
  simp only [outcome_block_by_hash]

/-- A full block is resolved, loaded and completed. -/
theorem outcome_full_block_resolved (source : Source Id) (network : Network) (ref : BlockRef) :
    (fullBlock network ref).outcome source =
      (resolve ref).outcome source >>= fun hash =>
        (load hash).outcome source >>= fun loaded => (completed network loaded).outcome source := by
  rw [full_block_eq, outcome_bind]
  simp only [outcome_bind]

/-- From the bytes of a block or from its header and what is listed about it, the block is reported
alike, and so are all its transactions for every reference that stands for it or for nothing. Under
its own hash the report succeeds. -/
theorem block_paths_agree (hd : Block.decode bytes = .ok b)
    (hs : ServedBothWays hash bytes b height whole listing) (network : Network) :
    ((blockByHash hash).outcome whole = (blockByHash hash).outcome listing ∧
      (b.header.hash = hash → ∃ r, (blockByHash hash).outcome whole = .ok r)) ∧
    ∀ ref, (∀ h, (resolve ref).outcome whole = .ok h → h = hash) →
      ∀ w, (fullBlock network ref).outcome whole = .ok w ↔
      (fullBlock network ref).outcome listing = .ok w := by
  obtain ⟨hw, hl⟩ := hs.load_eq hd
  refine ⟨⟨?_, ?_⟩, ?_⟩
  · rw [outcome_block_by_hash, outcome_block_by_hash, hw, hl]
    split <;> rfl
  · intro he
    rw [outcome_block_by_hash, hw, if_pos he]
    exact ⟨_, rfl⟩
  -- reported whole or listed, the transactions come from the same bytes
  · intro ref href w
    have heq : (fullBlock network ref).outcome whole = (fullBlock network ref).outcome listing := by
      rw [full_block_eq, outcome_bind, outcome_bind, ← hs.resolve_eq ref]
      cases hr : (resolve ref).outcome whole with
      | error failure => rfl
      | ok h =>
        obtain rfl := href h hr
        change (load h >>= completed network).outcome whole =
          (load h >>= completed network).outcome listing
        rw [outcome_bind, outcome_bind, hw, hl]
        by_cases he : b.header.hash = h
        · rw [if_pos he, if_pos he]
          exact hs.completed_eq hd network
        · rw [if_neg he, if_neg he]
          rfl
    rw [heq]

def singleBlock : Block where
  header := ⟨1, Hash256.zero, Hash256.zero, 7, 0x1d00ffff, 9⟩
  transactions := [TxRecord.twoElements]

def singleBlockBytes : Bytes :=
  [1, 0, 0, 0] ++ List.replicate 64 0 ++ [7, 0, 0, 0, 255, 255, 0, 29, 9, 0, 0, 0, 1] ++
    TxRecord.twoElementsBytes

def wholeTable (hash : BlockHash) (bytes : Bytes) (t : Transaction) : Table where
  tip := some (.ok 6)
  transactionBytes := [(t.txid, .ok t.encode)]
  locations := []
  blockBytes := [(hash, .ok bytes)]
  blockFacts := [(hash, .ok ⟨hash, 5, 0, 0, 0, none, []⟩)]
  blocksAt := [(5, .ok hash)]

def listingTable (hash : BlockHash) (bytes : Bytes) (t : Transaction) (sizes : BlockSizes) :
    Table :=
  { wholeTable hash bytes t with
    blockBytes := [(hash, .error (.unsupported .rawBlocks))]
    blockFacts := [(hash,
      .ok ⟨hash, 5, sizes.total, sizes.stripped, sizes.weight, some (bytes.take 80), [t.txid]⟩)] }

/-- The two tables serve one block, each in its way. -/
theorem tables_serve_both_ways (hash : BlockHash) (bytes : Bytes) (t : Transaction)
    (header : Header) :
    ServedBothWays hash bytes ⟨header, [t]⟩ 5 (wholeTable hash bytes t).source
      (listingTable hash bytes t (Block.sizes ⟨header, [t]⟩)).source := by
  refine { tip := rfl, blockAt := fun _ => rfl, transactionBytes := fun _ => rfl, known := ?_,
           bytes_eq := Table.find_cons_self .., facts := ⟨_, Table.find_cons_self .., rfl⟩,
           no_bytes := ⟨_, Table.find_cons_self ..⟩,
           listed := ⟨_, Table.find_cons_self .., rfl, rfl, rfl, rfl, rfl, rfl⟩ }
  intro u hu
  obtain rfl := List.mem_singleton.mp hu
  exact Table.find_cons_self ..

/-- A block of one transaction, served whole and listed. -/
theorem block_paths_agree_single :
    Block.decode singleBlockBytes = .ok singleBlock ∧
    ServedBothWays singleBlock.header.hash singleBlockBytes singleBlock 5
      (wholeTable singleBlock.header.hash singleBlockBytes TxRecord.twoElements).source
      (listingTable singleBlock.header.hash singleBlockBytes TxRecord.twoElements
        singleBlock.sizes).source ∧
    ∀ w, (fullBlock .regtest (.hash singleBlock.header.hash)).outcome
        (wholeTable singleBlock.header.hash singleBlockBytes TxRecord.twoElements).source = .ok w ↔
      (fullBlock .regtest (.hash singleBlock.header.hash)).outcome
        (listingTable singleBlock.header.hash singleBlockBytes TxRecord.twoElements
          singleBlock.sizes).source =
          .ok w := by
  have hd : Block.decode singleBlockBytes = .ok singleBlock := by rfl
  have hs := tables_serve_both_ways singleBlock.header.hash singleBlockBytes TxRecord.twoElements
      singleBlock.header
  refine ⟨hd, hs, ?_⟩
  apply (block_paths_agree hd hs .regtest).2
  intro h hr
  exact (Except.ok.inj hr).symm

end Explorer
end ChainLens
