import ChainLens.Proofs.Source.Ledger
import ChainLens.Proofs.Source.Remembered

/-!
What a node and an index answer that are served the same chain. Either answers every question about
blocks and transactions from the chain; they differ in the paths under which they miss what is not
there, and in that a node knows the block of a transaction and an index the height.
-/

namespace ChainLens

open Web

theorem map_or_missing {α β : Type} (path : String) (o : Option α) (f : α → β) :
    (orMissing path o).map f = orMissing path (o.map f) := by
  cases o with
  | none => rfl
  | some a => rfl

theorem bind_or_missing {α β : Type} (path : String) (a : α) (f : α → Except Failure β) :
    (orMissing path (some a)).bind f = f a := rfl

theorem read_tip (height : Height) : AddressIndex.readTip height.toNat = .ok height := by
  have hrange : 0 ≤ (height.toNat : Int) ∧ (height.toNat : Int) < (UInt32.size : Int) :=
    ⟨Int.natCast_nonneg _, Int.ofNat_lt.mpr height.toNat_lt⟩
  rw [AddressIndex.readTip, if_pos hrange, Int.toNat_natCast, UInt32.ofNat_toNat]

namespace Ledger

variable {l : Ledger} {wire : Wire Id}

section Node

def nodeFacts (p : Height × Block) : BlockFacts :=
  ⟨p.2.header.hash, p.1, p.2.sizes.total, p.2.sizes.stripped, p.2.sizes.weight, none, txidsOf p.2⟩

variable {node : FullNode} (h : wire.Publishes node.base NodePage.path l.nodePage)

include h

/-- A node serves the bytes of the transactions in the chain. -/
theorem node_transaction_bytes (id : Txid) : (node.afresh wire).answer (.transactionBytes id) =
    orMissing (NodePage.transaction id).path ((l.transaction? id).map fun t => t.1.encode) := by
  have hfetch := fetch_of_publishes h (.transaction id)
  have hanswer : (node.afresh wire).answer (.transactionBytes id) =
      fetch wire node.base (NodePage.transaction id).path := by
    rw [FullNode.afresh_answer, FullNode.answer, fetch_lift]
    rfl
  rw [hanswer, hfetch, nodePage, Option.map_map]
  rfl

theorem node_placement (id : Txid) :
    fetchJson wire node.base (NodePage.placement id).path FullNode.locationShape =
      orMissing (NodePage.placement id).path
        ((l.transaction? id).map fun t => (⟨t.2, none⟩ : Location)) :=
  fetch_json_of_publishes h rfl fun t _ => ⟨plain_placement t, node_reads_placement t⟩

/-- A node tells of a transaction its bytes and the block it is in. -/
theorem node_transaction {id : Txid} {t : Transaction} {block : Option BlockHash}
    (ht : l.transaction? id = some (t, block)) :
    (node.afresh wire).answer (.transaction id) = Except.ok (t.encode, ⟨block, none⟩) := by
  have hbytes := fetch_of_publishes h (.transaction id)
  have hplacement := node_placement h id
  have hanswer : (node.afresh wire).answer (.transaction id) =
      (Id.run (fetch wire node.base (NodePage.transaction id).path)).bind fun bytes =>
        (Id.run (fetchJson wire node.base (NodePage.placement id).path FullNode.locationShape)).map
            fun location =>
          (bytes, location) := by
    rw [FullNode.afresh_answer, FullNode.answer, fetch_lift, fetch_json_lift]
    change _ = (Id.run (fetch wire node.base s!"tx/{id.display}.bin")).bind _
    cases (fetch wire node.base s!"tx/{id.display}.bin" : Id (Except Failure Bytes)) with
    | error failure => rfl
    | ok bytes => rfl
  rw [hanswer, hbytes, hplacement, nodePage, ht]
  rfl

theorem node_block_bytes (hash : BlockHash) : (node.afresh wire).answer (.blockBytes hash) =
    orMissing (NodePage.block hash).path ((l.block? hash).map fun p => p.2.encode) := by
  have hfetch := fetch_of_publishes h (.block hash)
  have hanswer : (node.afresh wire).answer (.blockBytes hash) =
      fetch wire node.base (NodePage.block hash).path := by
    rw [FullNode.afresh_answer, FullNode.answer, fetch_lift]
    rfl
  rw [hanswer, hfetch, nodePage, Option.map_map]
  rfl

/-- A node tells of a block what there is to tell, under the hash asked for. -/
theorem node_facts (hash : BlockHash) :
    FullNode.factsReply wire node hash =
      orMissing (NodePage.facts hash).path ((l.block? hash).map nodeFacts) := by
  have hfetch : fetchJson wire node.base (NodePage.facts hash).path FullNode.blockShape =
      orMissing (NodePage.facts hash).path ((l.block? hash).map nodeFacts) := by
    apply fetch_json_of_publishes h rfl
    intro p hp
    exact ⟨plain_block p, node_reads_block (l.sized p (block_eq_some hp).1)⟩
  exact hfetch

theorem node_block_facts (hash : BlockHash) : (node.afresh wire).answer (.blockFacts hash) =
    orMissing (NodePage.facts hash).path ((l.block? hash).map nodeFacts) := by
  rw [FullNode.afresh_block_facts, node_facts h]

/-- A node knows the heights of the blocks in the chain. -/
theorem node_height_of (hash : BlockHash) :
    (node.afresh wire).answer (.heightOf hash) =
      orMissing (NodePage.facts hash).path (l.heightOf hash) := by
  rw [FullNode.afresh_height_of, node_facts h, map_or_missing, Option.map_map]
  rfl

theorem node_block_at (height : Height) :
    (node.afresh wire).answer (.blockAt height) =
      orMissing (NodePage.blockAt height).path (l.blockAt height) := by
  have hfetch := fetch_of_publishes h (.blockAt height)
  have hanswer : (node.afresh wire).answer (.blockAt height) =
      (Id.run (fetch wire node.base (NodePage.blockAt height).path)).bind
        FullNode.readBlockHash := by
    rw [FullNode.afresh_answer, FullNode.answer, fetch_lift]
    rfl
  rw [hanswer, hfetch, nodePage, Option.map_map]
  cases l.blockAt height with
  | none => rfl
  | some hash =>
    have hread : Decoder.hash256.decodeAll hash.bytes = .ok hash :=
      Decoder.reads_hash256.decode_all_eq_ok.mpr ⟨trivial, rfl⟩
    simp only [Option.map_some, Id.run, orMissing, Except.bind, Function.comp_apply, Content.body,
      FullNode.readBlockHash, hread]

theorem node_tip : (node.afresh wire).answer .tip = Except.ok l.tip := by
  have htip : fetchJson wire node.base NodePage.tip.path FullNode.tipShape =
      orMissing NodePage.tip.path ((some l.tip).map id) :=
    fetch_json_of_publishes h rfl fun height _ => ⟨plain_node_tip height, node_reads_tip height⟩
  have hanswer : (node.afresh wire).answer .tip =
      fetchJson wire node.base NodePage.tip.path FullNode.tipShape := by
    rw [FullNode.afresh_answer, FullNode.answer, fetch_json_lift]
    rfl
  rw [hanswer, htip]
  rfl

/-- A page about a block names the block that was asked for, so nothing false is remembered. -/
theorem node_coherent : node.Coherent wire := by
  intro hash facts hfacts
  rw [node_block_facts h] at hfacts
  cases hblock : l.block? hash with
  | none =>
    rw [hblock] at hfacts
    cases hfacts
  | some p =>
    rw [hblock] at hfacts
    obtain rfl := Except.ok.inj hfacts
    have hname : (nodeFacts p).hash = hash := (block_eq_some hblock).2
    rw [hname, node_height_of h, heightOf, hblock]
    rfl

end Node

section Index

def indexFacts (p : Height × Block) : BlockFacts :=
  { nodeFacts p with header := some p.2.header.encode }

variable {index : AddressIndex} (h : wire.Publishes index.base IndexPage.path l.indexPage)

include h

/-- An index tells of a transaction its digits and its height. -/
theorem index_entry (id : Txid) :
    fetchJson wire index.base (IndexPage.transaction id).path AddressIndex.entryShape =
      orMissing (IndexPage.transaction id).path ((l.transaction? id).map fun t =>
        (⟨Hex.encode t.1.encode, t.2 >>= l.heightOf, none⟩ : AddressIndex.Entry)) :=
  fetch_json_of_publishes h rfl fun t _ => ⟨plain_entry t.1 _, index_reads_entry t.1 _⟩

theorem index_transaction_bytes (id : Txid) : (index.source wire).answer (.transactionBytes id) =
    orMissing (IndexPage.transaction id).path ((l.transaction? id).map fun t => t.1.encode) := by
  have hanswer : (index.source wire).answer (.transactionBytes id) =
      (Id.run (fetchJson wire index.base (IndexPage.transaction id).path
          AddressIndex.entryShape)).bind fun e =>
        AddressIndex.readHex "hex" e.hex := by
    simp only [AddressIndex.source, AddressIndex.answer]
    rfl
  rw [hanswer, index_entry h]
  cases l.transaction? id with
  | none => rfl
  | some t =>
    have hhex := Hex.decode_encode t.1.encode
    simp only [Option.map_some, Id.run, orMissing, Except.bind, AddressIndex.readHex, hhex]

/-- An index tells of a transaction its bytes and its height, but not the block it is in. -/
theorem index_transaction {id : Txid} {t : Transaction} {block : Option BlockHash}
    (ht : l.transaction? id = some (t, block)) :
    (index.source wire).answer (.transaction id) =
      Except.ok (t.encode, ⟨none, block >>= l.heightOf⟩) := by
  have hanswer : (index.source wire).answer (.transaction id) =
      (Id.run (fetchJson wire index.base (IndexPage.transaction id).path
          AddressIndex.entryShape)).bind fun e =>
        (AddressIndex.readHex "hex" e.hex).map fun bytes => (bytes, e.location) := by
    simp only [AddressIndex.source, AddressIndex.answer]
    rfl
  have hhex := Hex.decode_encode t.encode
  rw [hanswer, index_entry h, ht]
  simp only [Option.map_some, Id.run, orMissing, Except.bind, AddressIndex.readHex, hhex,
    Except.map]
  rfl

omit h in
theorem index_block_bytes (hash : BlockHash) :
    (index.source wire).answer (.blockBytes hash) = Except.error (.unsupported .rawBlocks) := rfl

theorem index_block (ref : BlockRef) {found : Option (Height × Block)}
    (hpage : l.indexPage (.block ref) = found.map fun p => .json (blockJson p))
    (hfound : ∀ p ∈ found, p ∈ l.blocks) :
    fetchJson wire index.base (IndexPage.block ref).path AddressIndex.blockShape =
      orMissing (IndexPage.block ref).path (found.map fun p =>
        (⟨p.2.header.hash, p.1, Hex.encode p.2.header.encode, p.2.sizes.total, p.2.sizes.stripped,
          p.2.sizes.weight,
          txidsOf p.2⟩ : AddressIndex.BlockEntry)) := by
  apply fetch_json_of_publishes h hpage
  intro p hp
  exact ⟨plain_block p, index_reads_block (l.sized p (hfound p hp))⟩

/-- An index tells of a block what a node tells, and its header. -/
theorem index_block_facts (hash : BlockHash) : (index.source wire).answer (.blockFacts hash) =
    orMissing (IndexPage.block (.hash hash)).path ((l.block? hash).map indexFacts) := by
  have hblock := index_block h (.hash hash) rfl fun p hp => (block_eq_some hp).1
  have hanswer : (index.source wire).answer (.blockFacts hash) =
      (Id.run (fetchJson wire index.base (IndexPage.block (.hash hash)).path
          AddressIndex.blockShape)).bind
        AddressIndex.readFacts := by
    simp only [AddressIndex.source, AddressIndex.answer]
    rfl
  rw [hanswer, hblock]
  cases l.block? hash with
  | none => rfl
  | some p =>
    have hhex := Hex.decode_encode p.2.header.encode
    simp only [Option.map_some, Id.run, orMissing, Except.bind, AddressIndex.readFacts,
      AddressIndex.readHex, hhex]
    rfl

theorem index_block_at (height : Height) : (index.source wire).answer (.blockAt height) =
    orMissing (IndexPage.block (.height height)).path (l.blockAt height) := by
  have hfound : ∀ p ∈ l.blockAt height >>= l.block?, p ∈ l.blocks := by
    intro p hp
    obtain ⟨hash, -, hblock⟩ := Option.bind_eq_some_iff.mp hp
    exact (block_eq_some hblock).1
  have hblock := index_block h (.height height) rfl hfound
  have hanswer : (index.source wire).answer (.blockAt height) =
      (Id.run (fetchJson wire index.base (IndexPage.block (.height height)).path
          AddressIndex.blockShape)).map
        AddressIndex.BlockEntry.hash := by
    simp only [AddressIndex.source, AddressIndex.answer]
    rfl
  rw [hanswer, hblock, Id.run, map_or_missing, Option.map_map]
  exact congrArg (orMissing _) (l.block_at_named height).symm

theorem index_tip : (index.source wire).answer .tip = Except.ok l.tip := by
  have htip : fetchJson wire index.base IndexPage.status.path AddressIndex.tipShape =
      orMissing IndexPage.status.path ((some l.tip).map fun height => (height.toNat : Int)) :=
    fetch_json_of_publishes h rfl fun height _ => ⟨plain_index_tip height, index_reads_tip height⟩
  have hanswer : (index.source wire).answer .tip =
      (Id.run (fetchJson wire index.base IndexPage.status.path AddressIndex.tipShape)).bind
        AddressIndex.readTip := by
    simp only [AddressIndex.source, AddressIndex.answer]
    rfl
  rw [hanswer, htip, Option.map_some, Id.run, bind_or_missing, read_tip]

end Index

end Ledger

end ChainLens
