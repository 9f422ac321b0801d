import ChainLens.Proofs.Explorer.Losses
import ChainLens.Proofs.Source.Dialects
import ChainLens.Proofs.Source.LedgerServer

/-!
The same chain told by a node and by an index. Whatever was called before, all blocks are reported
alike by both, and all transactions but for the block that they are in, which an index does not
tell.
-/

namespace ChainLens.Explorer

open Lookup Web

/-- A reference under which people know a block. -/
inductive Names (p : Height × Block) : BlockRef → Prop
  | height : Names p (.height p.1)
  | hash : Names p (.hash p.2.header.hash)

section Sources

variable {source : Source Id} {network : Network}

theorem outcome_status {tip : Height} (h : source.answer .tip = Except.ok tip) :
    status.outcome source = .ok tip := h

/-- A reference to a block that is not above the tip is resolved with the source. -/
theorem outcome_resolve {tip : Height} {p : Height × Block} {ref : BlockRef}
    (htip : source.answer .tip = Except.ok tip)
    (hbelow : p.1 ≤ tip) (hat : source.answer (.blockAt p.1) = Except.ok p.2.header.hash)
    (href : Names p ref) :
    (resolve ref).outcome source = .ok p.2.header.hash := by
  cases href with
  | hash => rfl
  | height =>
    have hnot : ¬ tip < p.1 := UInt32.not_lt.mpr hbelow
    rw [resolve, outcome_hash_at htip, if_neg hnot]
    exact hat

/-- A block is reported once its reference is resolved and it is loaded. -/
theorem outcome_block {ref : BlockRef} {hash : BlockHash} {loaded : LoadedBlock}
    (hresolve : (resolve ref).outcome source = .ok hash)
    (hload : (load hash).outcome source = .ok loaded) :
    (block ref).outcome source = .ok loaded.report := by
  rw [outcome_block_resolved]
  exact bind_eq_ok.mpr ⟨hash, hresolve, bind_eq_ok.mpr ⟨loaded, hload, rfl⟩⟩

theorem outcome_full_block {ref : BlockRef} {hash : BlockHash} {loaded : LoadedBlock}
    (hresolve : (resolve ref).outcome source = .ok hash)
    (hload : (load hash).outcome source = .ok loaded) :
    (fullBlock network ref).outcome source = (completed network loaded).outcome source := by
  rw [outcome_full_block_resolved, hresolve]
  change (load hash).outcome source >>= _ = _
  rw [hload]
  rfl

theorem outcome_confirmed_height_told (height : Option Height) :
    (confirmedHeight ⟨none, height⟩).outcome source = .ok height := by
  cases height with
  | none => rfl
  | some height => rfl

/-- A block that is missing has no height, and that is no failure. -/
theorem outcome_confirmed_height_asked {height : BlockHash → Option Height}
    {path : BlockHash → String}
    (h : ∀ hash, source.answer (.heightOf hash) = orMissing (path hash) (height hash))
    (block : Option BlockHash) :
    (confirmedHeight ⟨block, none⟩).outcome source = .ok (block >>= height) := by
  cases block with
  | none => rfl
  | some hash =>
    rw [confirmedHeight, outcome_attempt_bind, h hash, Option.bind_eq_bind, Option.bind_some]
    cases height hash with
    | none => rfl
    | some height => rfl

/-- With one height, found by either source in its own way, two reports differ in the block that is
given. -/
theorem outcome_report_elsewhere {a b : Source Id}
    (hspent : ∀ id, spentRecord? (a.answer (.transactionBytes id)) =
      spentRecord? (b.answer (.transactionBytes id)))
    {location location' : Location} {height : Option Height}
    (ha : (confirmedHeight location).outcome a = .ok height)
    (hb : (confirmedHeight location').outcome b = .ok height)
    (record : TxRecord) :
    (report network record location').outcome b =
      ((report network record location).outcome a).map fun r =>
        { r with blockHash := location'.block } := by
  have hinputs : inputsFrom a network record = inputsFrom b network record := by
    rw [inputsFrom, inputsFrom, spent_from_congr hspent]
  rw [outcome_report, outcome_report, ha, hb, hinputs]
  simp only [bind, Except.bind]
  -- what is left of either report is the fee, which is one and the same
  cases fee (amountsIn (inputsFrom b network record)) (amountsOut record) with
  | error flaw => rfl
  | ok fee => rfl

end Sources

section Tables

variable {l : Ledger} {wire wire' : Wire Id} {node : FullNode} {index : AddressIndex}
    {p : Height × Block}
  {network : Network}

theorem node_resolve (h : wire.Publishes node.base NodePage.path l.nodePage) (hp : p ∈ l.blocks)
    {ref : BlockRef}
    (href : Names p ref) : (resolve ref).outcome (node.afresh wire) = .ok p.2.header.hash := by
  apply outcome_resolve (Ledger.node_tip h) (Ledger.le_tip hp) _ href
  rw [Ledger.node_block_at h, Ledger.block_at_of_mem hp]
  rfl

theorem index_resolve (h : wire.Publishes index.base IndexPage.path l.indexPage) (hp : p ∈ l.blocks)
    {ref : BlockRef}
    (href : Names p ref) : (resolve ref).outcome (index.source wire) = .ok p.2.header.hash := by
  apply outcome_resolve (Ledger.index_tip h) (Ledger.le_tip hp) _ href
  rw [Ledger.index_block_at h, Ledger.block_at_of_mem hp]
  rfl

/-- A node's block is loaded whole. -/
theorem node_load (h : wire.Publishes node.base NodePage.path l.nodePage) {hash : BlockHash}
    (hp : l.block? hash = some p) :
    (load hash).outcome (node.afresh wire) = .ok ⟨reportOf p.2 p.1, some p.2.transactions⟩ := by
  obtain ⟨hmem, hname⟩ := Ledger.block_eq_some hp
  have hbytes : (node.afresh wire).answer (.blockBytes hash) = Except.ok p.2.encode := by
    rw [Ledger.node_block_bytes h, hp]
    rfl
  have hfacts : (node.afresh wire).answer (.blockFacts hash) = Except.ok (Ledger.nodeFacts p) := by
    rw [Ledger.node_block_facts h, hp]
    rfl
  rw [outcome_load_whole hbytes hfacts (l.blocks_read p hmem), if_pos hname]
  rfl

/-- An index's block is loaded from what it says about it. -/
theorem index_load (h : wire.Publishes index.base IndexPage.path l.indexPage) {hash : BlockHash}
    (hp : l.block? hash = some p) :
    (load hash).outcome (index.source wire) = .ok ⟨reportOf p.2 p.1, none⟩ := by
  have hname := (Ledger.block_eq_some hp).2
  have hfacts : (index.source wire).answer (.blockFacts hash) =
      Except.ok (Ledger.indexFacts p) := by
    rw [Ledger.index_block_facts h, hp]
    rfl
  rw [outcome_load_listed (Ledger.index_block_bytes hash) hfacts rfl rfl rfl, if_pos hname]
  rfl

variable (hnode : wire.Publishes node.base NodePage.path l.nodePage)
  (hindex : wire'.Publishes index.base IndexPage.path l.indexPage)

include hnode hindex

/-- Both know the same of what is spent. -/
theorem spent_alike (id : Txid) : spentRecord? ((node.afresh wire).answer (.transactionBytes id)) =
    spentRecord? ((index.source wire').answer (.transactionBytes id)) := by
  rw [Ledger.node_transaction_bytes hnode, Ledger.index_transaction_bytes hindex]
  cases l.transaction? id with
  | none => rfl
  | some t => rfl

theorem block_alike (hp : p ∈ l.blocks) {ref : BlockRef} (href : Names p ref) :
    ∃ r, (block ref).outcome (node.afresh wire) = .ok r ∧
    (block ref).outcome (index.source wire') = .ok r := by
  obtain ⟨found, hfound⟩ := Ledger.block_of_mem hp
  exact ⟨reportOf found.2 found.1,
    outcome_block (node_resolve hnode hp href) (node_load hnode hfound),
    outcome_block (index_resolve hindex hp href) (index_load hindex hfound)⟩

/-- The transactions of a block are reported alike, from the block or one by one. -/
theorem full_block_alike (hp : p ∈ l.blocks) {ref : BlockRef} (href : Names p ref) :
    (fullBlock network ref).outcome (node.afresh wire) =
      (fullBlock network ref).outcome (index.source wire') := by
  obtain ⟨found, hfound⟩ := Ledger.block_of_mem hp
  have hmem := (Ledger.block_eq_some hfound).1
  -- the index has to be asked for the transactions that the node serves within the block
  have hknown : ∀ t ∈ found.2.transactions,
      (index.source wire').answer (.transactionBytes t.txid) = Except.ok t.encode := by
    intro t ht
    rw [Ledger.index_transaction_bytes hindex, Ledger.transaction_of_block hmem ht]
    rfl
  have hreadable := (Block.decode_eq_ok.mp (l.blocks_read found hmem)).1
  rw [outcome_full_block (node_resolve hnode hp href) (node_load hnode hfound),
    outcome_full_block (index_resolve hindex hp href) (index_load hindex hfound)]
  exact completed_congr (spent_alike hnode hindex) hreadable hknown network

/-- A transaction is reported alike but for its block, which an index does not tell. -/
theorem transaction_alike {t : Transaction} (ht : t ∈ l.transactions) :
    (transaction network t.txid).outcome (index.source wire') =
      ((transaction network t.txid).outcome (node.afresh wire)).map fun r =>
        { r with blockHash := none } := by
  obtain ⟨hreadable, block, hplaced⟩ := Ledger.placed_of_mem ht
  have hfound := Ledger.transaction_of_mem hplaced
  have hread := TxRecord.read_encode hreadable
  rw [outcome_transaction (Ledger.node_transaction hnode hfound) hread,
    outcome_transaction (Ledger.index_transaction hindex hfound) hread]
  apply outcome_report_elsewhere (spent_alike hnode hindex)
  · exact outcome_confirmed_height_asked (Ledger.node_height_of hnode) block
  · exact outcome_confirmed_height_told _

end Tables

section Calls

def following (network : Network) (earlier : List Call) (call : Call) :
    Dialogue Query.Reply (Except Failure call.Result) :=
  session network earlier >>= fun _ => (call.lookup network).run

def atNode (r : Rehearsal) (node : FullNode) (network : Network) (earlier : List Call)
    (call : Call) :
    Except Failure call.Result :=
  (Id.run ((((following network earlier call).run (node.source Rehearsal.wire).answer).run
    .empty).run r)).1.1

def atIndex (r : Rehearsal) (index : AddressIndex) (network : Network) (earlier : List Call)
    (call : Call) :
    Except Failure call.Result :=
  (Id.run (((following network earlier call).run (index.source Rehearsal.wire).answer).run r)).1

variable {r : Rehearsal} {node : FullNode} {index : AddressIndex} (network : Network)
    (earlier : List Call)
  (call : Call)

/-- Without memory a call comes to what it comes to by itself. -/
theorem run_following (source : Source Id) :
    Id.run ((following network earlier call).run source.answer) =
      (call.lookup network).outcome source := by
  rw [following, Dialogue.bind_eq, Dialogue.run_bind]
  rfl

/-- What a node remembers makes no difference when its facts are coherent. -/
theorem at_node_eq (h : node.Coherent r.still) :
    atNode r node network earlier call = (call.lookup network).outcome (node.afresh r.still) := by
  have hrun := FullNode.run_rehearsed r h (following network earlier call)
  rw [atNode, hrun, run_following]

theorem at_index_eq : atIndex r index network earlier call =
    (call.lookup network).outcome (index.source r.still) := by
  obtain ⟨r', hrun, -⟩ :=
    (index.related (Rehearsal.related r.still)).run (following network earlier call) r rfl
  rw [atIndex, hrun]
  exact run_following network earlier call _

end Calls

def spentIn (l : Ledger) (inputs : List TxInput) : Spent :=
  (spentTxids inputs).map fun id =>
    (id, (l.transaction? id).map fun t => TxRecord.ofTransaction t.1)

/-- A node knows of what inputs spend as much as there is in the chain. -/
theorem node_spent {l : Ledger} {wire : Wire Id} {node : FullNode}
    (h : wire.Publishes node.base NodePage.path l.nodePage) (inputs : List TxInput) :
    spentFrom (node.afresh wire) inputs = spentIn l inputs := by
  apply List.map_congr_left
  intro id _
  rw [Ledger.node_transaction_bytes h]
  cases hfound : l.transaction? id with
  | none => rfl
  | some t =>
    have hplaced : (id, t) ∈ l.placed := mem_of_lookup hfound
    have hmem : t.1 ∈ l.transactions := List.mem_map.mpr ⟨_, hplaced, rfl⟩
    have hread := TxRecord.read_encode (Ledger.placed_of_mem hmem).1
    simp only [orMissing, spentRecord?, Option.map_some, hread, Except.toOption]

/-- A node reports a transaction of the chain in its block and at its height, if it has a fee. -/
theorem exists_report_at_node {l : Ledger} {near : Rehearsal} {node : FullNode}
    (h : near.still.Publishes node.base NodePage.path l.nodePage) (network : Network)
    (earlier : List Call) {t : Transaction} {block : Option BlockHash} {f : Int}
    (ht : (t.txid, t, block) ∈ l.placed)
    (hfee : fee (amountsIn (t.inputs.map (reportInput network (spentIn l t.inputs))))
      (t.outputs.map TxOutput.value) = .ok f) :
    ∃ r, atNode near node network earlier (.transaction t.txid) = .ok r ∧
      r.blockHash = block ∧ r.confirmedHeight = block.bind l.heightOf ∧ r.fee = f := by
  have hmem : t ∈ l.transactions := List.mem_map.mpr ⟨_, ht, rfl⟩
  have hread := TxRecord.read_encode (Ledger.placed_of_mem hmem).1
  have hheight : (confirmedHeight ⟨block, none⟩).outcome (node.afresh near.still) =
      .ok (block.bind l.heightOf) :=
    outcome_confirmed_height_asked (Ledger.node_height_of h) block
  rw [at_node_eq network earlier _ (Ledger.node_coherent h)]
  change ∃ r, (transaction network t.txid).outcome (node.afresh near.still) = .ok r ∧ _
  rw [outcome_transaction (Ledger.node_transaction h (Ledger.transaction_of_mem ht)) hread]
  refine ⟨_, report_eq_ok_iff.mpr ⟨_, f, hheight, ?_, rfl⟩, rfl, rfl, rfl⟩
  rw [inputsFrom, node_spent h]
  exact hfee

/-- A node and an index that are served the same chain agree on its tip, on its blocks with their
transactions and on its transactions, except for the blocks that these are in. It does not matter
what either was asked before. -/
theorem dialects_agree (l : Ledger) {near far : Rehearsal} {node : FullNode} {index : AddressIndex}
    (hnear : near.still.Publishes node.base NodePage.path l.nodePage)
    (hfar : far.still.Publishes index.base IndexPage.path l.indexPage)
    (network : Network) (earlier earlier' : List Call) :
    (atNode near node network earlier .status = .ok l.tip ∧
      atIndex far index network earlier' .status = .ok l.tip) ∧
    (∀ p ∈ l.blocks, ∀ ref, Names p ref →
      (∃ r, atNode near node network earlier (.block ref) = .ok r ∧
        atIndex far index network earlier' (.block ref) = .ok r) ∧
      atNode near node network earlier (.fullBlock ref) =
        atIndex far index network earlier' (.fullBlock ref)) ∧
    ∀ t ∈ l.transactions, atIndex far index network earlier' (.transaction t.txid) =
      (atNode near node network earlier (.transaction t.txid)).map fun r =>
        { r with blockHash := none } := by
  have hcoherent := Ledger.node_coherent hnear
  have hnode (call : Call) := at_node_eq network earlier call hcoherent
  have hindex (call : Call) : atIndex far index network earlier' call =
      (call.lookup network).outcome (index.source far.still) := at_index_eq network earlier' call
  refine ⟨⟨?_, ?_⟩, ?_, ?_⟩
  · rw [hnode]
    exact outcome_status (Ledger.node_tip hnear)
  · rw [hindex]
    exact outcome_status (Ledger.index_tip hfar)
  · intro p hp ref href
    obtain ⟨r, hr, hr'⟩ := block_alike hnear hfar hp href
    rw [hnode, hindex, hnode, hindex]
    exact ⟨⟨r, hr, hr'⟩, full_block_alike hnear hfar hp href⟩
  · intro t ht
    rw [hnode, hindex]
    exact transaction_alike hnear hfar ht

def laterBlock : Block where
  header := ⟨1, Hash256.zero, Hash256.zero, 8, 0x1d00ffff, 9⟩
  transactions := [minted]

/-- A chain of two blocks, and a transaction in neither that spends what the second mints. -/
def shortLedger : Ledger where
  blocks := [(5, singleBlock), (6, laterBlock)]
  pool := [spending]
  nonempty := List.cons_ne_nil _ _
  heights_nodup := by decide
  txids_nodup := by decide +kernel
  blocks_read := by decide +kernel
  pool_read := List.forall_mem_singleton.mpr rfl
  sized := by decide +kernel

theorem fee_of_minted : fee (amountsIn (minted.inputs.map
    (reportInput .regtest (spentIn shortLedger minted.inputs))))
    (minted.outputs.map TxOutput.value) = .ok (-1000) := by
  decide +kernel

theorem fee_of_spending_minted : fee (amountsIn (spending.inputs.map
    (reportInput .regtest (spentIn shortLedger spending.inputs))))
    (spending.outputs.map TxOutput.value) = .ok 600 := by
  decide +kernel

/-- Both report the block at height 5, what is minted in the other, which the index does not name,
and what spends it in no block, with the fee that it leaves. -/
theorem dialects_agree_short :
    shortLedger.nodeServer.still.Publishes here NodePage.path shortLedger.nodePage ∧
      shortLedger.indexServer.still.Publishes here IndexPage.path shortLedger.indexPage ∧
      (∃ r,
        atNode shortLedger.nodeServer ⟨here, none⟩ .regtest [.status] (.block (.height 5)) = .ok r ∧
        atIndex shortLedger.indexServer ⟨here⟩ .regtest [] (.block (.height 5)) = .ok r) ∧
      (∃ r, atNode shortLedger.nodeServer ⟨here, none⟩ .regtest [.status]
          (.transaction minted.txid) = .ok r ∧
        atIndex shortLedger.indexServer ⟨here⟩ .regtest [] (.transaction minted.txid) =
          .ok { r with blockHash := none } ∧
        r.blockHash = some laterBlock.header.hash ∧ r.confirmedHeight = some 6) ∧
      ∃ r, atNode shortLedger.nodeServer ⟨here, none⟩ .regtest [.status]
          (.transaction spending.txid) = .ok r ∧
        atIndex shortLedger.indexServer ⟨here⟩ .regtest [] (.transaction spending.txid) = .ok r ∧
        r.confirmedHeight = none ∧ r.fee = 600 := by
  have hnear := shortLedger.node_server_publishes
  have hfar := shortLedger.index_server_publishes
  obtain ⟨-, hblocks, htransactions⟩ :=
    @dialects_agree shortLedger shortLedger.nodeServer shortLedger.indexServer
      ⟨here, none⟩ ⟨here⟩ hnear hfar .regtest [.status] []
  have hblock : ((5, singleBlock) : Height × Block) ∈ shortLedger.blocks := List.mem_cons_self
  have hlater : ((6, laterBlock) : Height × Block) ∈ shortLedger.blocks :=
    List.mem_cons_of_mem _ (List.mem_singleton_self _)
  have hminted : (minted.txid, minted, some laterBlock.header.hash) ∈ shortLedger.placed :=
    Ledger.mem_placed.mpr (.inl ⟨_, hlater, minted, List.mem_singleton_self _, rfl⟩)
  have hspending : (spending.txid, spending, none) ∈ shortLedger.placed :=
    Ledger.mem_placed.mpr (.inr ⟨spending, List.mem_singleton_self _, rfl⟩)
  have hheight : shortLedger.heightOf laterBlock.header.hash = some 6 := by decide +kernel
  have hreport := @exists_report_at_node shortLedger shortLedger.nodeServer ⟨here, none⟩ hnear
    .regtest [.status]
  obtain ⟨r, hr, hin, hat, -⟩ := hreport hminted fee_of_minted
  obtain ⟨s, hs, hpool, hnowhere, hfee⟩ := hreport hspending fee_of_spending_minted
  refine ⟨hnear, hfar, (hblocks (5, singleBlock) hblock (.height 5) .height).1,
    ⟨r, hr, ?_, hin, ?_⟩, s, hs, ?_, hnowhere, hfee⟩
  · rw [htransactions minted (List.mem_map.mpr ⟨_, hminted, rfl⟩), hr]
    rfl
  · rw [hat, Option.bind_some, hheight]
  · rw [htransactions spending (List.mem_map.mpr ⟨_, hspending, rfl⟩), hs]
    change Except.ok { s with blockHash := none } = Except.ok s
    rw [← hpool]

end ChainLens.Explorer
