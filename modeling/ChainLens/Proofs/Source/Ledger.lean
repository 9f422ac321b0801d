import ChainLens.Chain.BlockRef
import ChainLens.Explorer.Blocks
import ChainLens.Proofs.Chain.RecordRoundTrip
import ChainLens.Proofs.Chain.Sizes
import ChainLens.Proofs.Source.Keyed
import ChainLens.Proofs.Web.Published
import ChainLens.Source.AddressIndex
import ChainLens.Source.FullNode

/-!
A chain and what servers tell of it. The same blocks and transactions are told in two ways: by a
node in bytes, with JSON beside them, and by an index in JSON alone.
-/

namespace ChainLens

open Web

abbrev Placed : Type := Txid × Transaction × Option BlockHash

def placedIn (blocks : List (Height × Block)) (pool : List Transaction) : List Placed :=
  (blocks.flatMap fun (_, b) => b.transactions.map fun t => (t.txid, t, some b.header.hash)) ++
    pool.map fun t => (t.txid, t, none)

/-- The blocks of a chain at their heights, and the transactions that are in none of them. -/
structure Ledger where
  blocks : List (Height × Block)
  pool : List Transaction
  nonempty : blocks ≠ []
  heights_nodup : (blocks.map Prod.fst).Nodup
  txids_nodup : ((placedIn blocks pool).map Prod.fst).Nodup
  /-- All that is told in bytes can be read. -/
  blocks_read : ∀ p ∈ blocks, Block.decode p.2.encode = .ok p.2
  pool_read : ∀ t ∈ pool, Transaction.decode t.encode = .ok t
  /-- Sizes are numbers of 64 bits. -/
  sized : ∀ p ∈ blocks, p.2.weight < UInt64.size

namespace Ledger

def placed (l : Ledger) : List Placed := placedIn l.blocks l.pool

def transaction? (l : Ledger) (id : Txid) : Option (Transaction × Option BlockHash) :=
  l.placed.lookup id

def block? (l : Ledger) (hash : BlockHash) : Option (Height × Block) :=
  l.blocks.find? fun p => p.2.header.hash == hash

def heightOf (l : Ledger) (hash : BlockHash) : Option Height := (l.block? hash).map Prod.fst

def blockAt (l : Ledger) (height : Height) : Option BlockHash :=
  (l.blocks.lookup height).map fun b => b.header.hash

def tip (l : Ledger) : Height := l.blocks.foldl (fun tip p => if tip < p.1 then p.1 else tip) 0

def transactions (l : Ledger) : List Transaction := l.placed.map fun t => t.2.1

section Lookups

variable {l : Ledger} {p : Height × Block} {hash : BlockHash}

theorem block_eq_some (h : l.block? hash = some p) : p ∈ l.blocks ∧ p.2.header.hash = hash := by
  have hname := List.find?_some h
  exact ⟨List.mem_of_find?_eq_some h, eq_of_beq hname⟩

/-- Every block is found under its name, or another block of that name is. -/
theorem block_of_mem (h : p ∈ l.blocks) : ∃ found, l.block? p.2.header.hash = some found := by
  cases hfound : l.block? p.2.header.hash with
  | some found => exact ⟨found, rfl⟩
  | none =>
    have hnot := List.find?_eq_none.mp hfound p h
    exact absurd (beq_self_eq_true _) hnot

theorem block_at_of_mem (h : p ∈ l.blocks) : l.blockAt p.1 = some p.2.header.hash := by
  have hfound : l.blocks.lookup p.1 = some p.2 := lookup_of_mem l.heights_nodup h
  rw [blockAt, hfound, Option.map_some]

/-- The name at a height leads to a block of that name. -/
theorem block_at_named (l : Ledger) (height : Height) :
    l.blockAt height = (l.blockAt height >>= l.block?).map fun p => p.2.header.hash := by
  cases hat : l.blockAt height with
  | none => rfl
  | some hash =>
    obtain ⟨b, hlookup, hname⟩ := Option.map_eq_some_iff.mp hat
    obtain ⟨found, hfound⟩ := block_of_mem (mem_of_lookup hlookup)
    rw [hname] at hfound
    rw [Option.bind_eq_bind, Option.bind_some, hfound, Option.map_some, (block_eq_some hfound).2]

/-- A transaction is placed in a block that holds it, or in none. -/
theorem mem_placed {entry : Placed} : entry ∈ l.placed ↔
    (∃ p ∈ l.blocks, ∃ t ∈ p.2.transactions, (t.txid, t, some p.2.header.hash) = entry) ∨
      ∃ t ∈ l.pool, (t.txid, t, none) = entry := by
  rw [placed, placedIn, List.mem_append, List.mem_flatMap, List.mem_map]
  simp only [List.mem_map]

theorem transaction_of_mem {t : Transaction} {block : Option BlockHash}
    (h : (t.txid, t, block) ∈ l.placed) :
    l.transaction? t.txid = some (t, block) := lookup_of_mem l.txids_nodup h

/-- A transaction is found in the block that holds it. -/
theorem transaction_of_block (h : p ∈ l.blocks) {t : Transaction} (ht : t ∈ p.2.transactions) :
    l.transaction? t.txid = some (t, some p.2.header.hash) := by
  apply transaction_of_mem
  exact mem_placed.mpr (.inl ⟨p, h, t, ht, rfl⟩)

/-- Every transaction is placed under its own id, and can be read. -/
theorem placed_of_mem {t : Transaction} (h : t ∈ l.transactions) :
    t.Readable ∧ ∃ block, (t.txid, t, block) ∈ l.placed := by
  obtain ⟨entry, hplaced, hentry⟩ := List.mem_map.mp h
  have hwhere := hplaced
  rcases mem_placed.mp hwhere with ⟨p, hp, u, hu, rfl⟩ | ⟨u, hu, rfl⟩
  · obtain rfl : u = t := hentry
    have hblock := (Block.decode_eq_ok.mp (l.blocks_read p hp)).1
    exact ⟨hblock.transactions u hu, _, hplaced⟩
  · obtain rfl : u = t := hentry
    have hread := Transaction.decode_eq_ok.mp (l.pool_read u hu)
    exact ⟨hread.1, _, hplaced⟩

theorem le_fold_tip (blocks : List (Height × Block)) (start : Height) :
    start ≤ blocks.foldl (fun tip p => if tip < p.1 then p.1 else tip) start ∧
      ∀ p ∈ blocks, p.1 ≤ blocks.foldl (fun tip p => if tip < p.1 then p.1 else tip) start := by
  induction blocks generalizing start with
  | nil => exact ⟨UInt32.le_refl start, nofun⟩
  | cons p blocks ih =>
    rw [List.foldl_cons]
    obtain ⟨hstart, hothers⟩ := ih (if start < p.1 then p.1 else start)
    have hstep : start ≤ (if start < p.1 then p.1 else start) ∧
        p.1 ≤ (if start < p.1 then p.1 else start) := by
      by_cases hlt : start < p.1
      · rw [if_pos hlt]
        exact ⟨UInt32.le_of_lt hlt, UInt32.le_refl _⟩
      · rw [if_neg hlt]
        exact ⟨UInt32.le_refl _, UInt32.not_lt.mp hlt⟩
    refine ⟨UInt32.le_trans hstep.1 hstart, ?_⟩
    intro q hq
    rcases List.mem_cons.mp hq with rfl | hq
    · exact UInt32.le_trans hstep.2 hstart
    · exact hothers q hq

/-- No block lies above the tip. -/
theorem le_tip (h : p ∈ l.blocks) : p.1 ≤ l.tip := (le_fold_tip l.blocks 0).2 p h

end Lookups

end Ledger

section Pages

def hashJson (hash : Hash256) : Json := .text hash.display

def heightJson (height : Height) : Json := .nat height.toNat

def blockJson (p : Height × Block) : Json := .record [
  ("hash", hashJson p.2.header.hash), ("header", .text (Hex.encode p.2.header.encode)),
  ("height", heightJson p.1),
  ("size", .nat p.2.sizes.total), ("strippedsize", .nat p.2.sizes.stripped),
  ("tx", .array (p.2.transactions.map fun t => hashJson t.txid)),
  ("txids", .array (p.2.transactions.map fun t => hashJson t.txid)),
  ("weight", .nat p.2.sizes.weight)]

def placementJson (t : Transaction × Option BlockHash) : Json := .record [
  ("blockhash", .orNull hashJson t.2), ("txid", hashJson t.1.txid)]

def entryJson (t : Transaction) (height : Option Height) : Json := .record [
  ("confirmedHeight", .orNull heightJson height), ("hash", hashJson t.wtxid),
  ("hex", .text (Hex.encode t.encode)),
  ("locktime", .nat t.lockTime.toNat), ("size", .nat t.totalSize), ("txid", hashJson t.txid),
  ("version", .int t.version.toInt)]

def nodeTipJson (height : Height) : Json :=
  .record [("blocks", heightJson height), ("chain", .text "regtest")]

def indexTipJson (height : Height) : Json := .record [("blocks", heightJson height)]

end Pages

inductive NodePage
  | transaction (id : Txid)
  | placement (id : Txid)
  | block (hash : BlockHash)
  | facts (hash : BlockHash)
  | blockAt (height : Height)
  | tip
  deriving DecidableEq

def NodePage.path : NodePage → String
  | .transaction id => s!"tx/{id.display}.bin"
  | .placement id => s!"tx/{id.display}.json"
  | .block hash => s!"block/{hash.display}.bin"
  | .facts hash => s!"block/notxdetails/{hash.display}.json"
  | .blockAt height => s!"blockhashbyheight/{height.toNat}.bin"
  | .tip => "chaininfo.json"

inductive IndexPage
  | status
  | transaction (id : Txid)
  | block (ref : BlockRef)
  deriving DecidableEq

def IndexPage.path : IndexPage → String
  | .status => "status"
  | .transaction id => s!"tx/{id.display}"
  | .block ref => s!"block/{ref.display}"

namespace Ledger

def nodePage (l : Ledger) : NodePage → Option Content
  | .transaction id => (l.transaction? id).map fun t => .raw t.1.encode
  | .placement id => (l.transaction? id).map fun t => .json (placementJson t)
  | .block hash => (l.block? hash).map fun p => .raw p.2.encode
  | .facts hash => (l.block? hash).map fun p => .json (blockJson p)
  | .blockAt height => (l.blockAt height).map fun hash => .raw hash.bytes
  | .tip => some (.json (nodeTipJson l.tip))

def indexPage (l : Ledger) : IndexPage → Option Content
  | .status => some (.json (indexTipJson l.tip))
  | .transaction id => (l.transaction? id).map fun t => .json (entryJson t.1 (t.2 >>= l.heightOf))
  | .block (.hash hash) => (l.block? hash).map fun p => .json (blockJson p)
  | .block (.height height) => (l.blockAt height >>= l.block?).map fun p => .json (blockJson p)

end Ledger

section Plainness

theorem plain_record {members : List (String × Json)} (h : ∀ m ∈ members, m.2.Plain) :
    (Json.record members).Plain := by
  have hmembers : Json.PlainMembers (members.map fun m => (some m.1, m.2)) := by
    induction members with
    | nil => trivial
    | cons m members ih =>
      exact ⟨rfl, h m List.mem_cons_self, ih fun n hn => h n (List.mem_cons_of_mem m hn)⟩
  exact hmembers

theorem plain_or_null {α : Type} {json : α → Json} (h : ∀ a, (json a).Plain) (a : Option α) :
    (Json.orNull json a).Plain := by
  cases a with
  | none => trivial
  | some a => exact h a

theorem plain_hash (hash : Hash256) : (hashJson hash).Plain := rfl

theorem plain_height (height : Height) : (heightJson height).Plain := trivial

theorem plain_hashes (transactions : List Transaction) :
    (Json.array (transactions.map fun t => hashJson t.txid)).Plain := by
  have hitems : Json.PlainItems (transactions.map fun t => hashJson t.txid) := by
    induction transactions with
    | nil => trivial
    | cons t transactions ih => exact ⟨plain_hash t.txid, ih⟩
  exact hitems

/-- What is told of a block is written without loss. -/
theorem plain_block (p : Height × Block) : (blockJson p).Plain := by
  apply plain_record
  simp only [List.forall_mem_cons, List.not_mem_nil, false_imp_iff, implies_true, and_true]
  exact ⟨rfl, rfl, trivial, trivial, trivial, plain_hashes _, plain_hashes _, trivial⟩

theorem plain_placement (t : Transaction × Option BlockHash) : (placementJson t).Plain := by
  apply plain_record
  simp only [List.forall_mem_cons, List.not_mem_nil, false_imp_iff, implies_true, and_true]
  exact ⟨plain_or_null plain_hash t.2, rfl⟩

theorem plain_entry (t : Transaction) (height : Option Height) : (entryJson t height).Plain := by
  apply plain_record
  simp only [List.forall_mem_cons, List.not_mem_nil, false_imp_iff, implies_true, and_true]
  exact ⟨plain_or_null plain_height height, rfl, rfl, trivial, trivial, rfl, trivial⟩

theorem plain_node_tip (height : Height) : (nodeTipJson height).Plain := by
  apply plain_record
  simp only [List.forall_mem_cons, List.not_mem_nil, false_imp_iff, implies_true, and_true]
  exact ⟨trivial, rfl⟩

theorem plain_index_tip (height : Height) : (indexTipJson height).Plain := by
  apply plain_record
  simp only [List.forall_mem_cons, List.not_mem_nil, false_imp_iff, implies_true, and_true]
  exact trivial

end Plainness

section Readings

theorem shape_hash (hash : Hash256) : Shape.hash (hashJson hash) = some hash := by
  have hparse := Hash256.parse_display hash
  simp only [Shape.hash, hashJson, Json.text, Json.string?, Option.bind_eq_bind, Option.bind_some,
    hparse]
  rfl

theorem shape_below {n bound : Nat} (h : n < bound) : Shape.below bound (.nat n) = some n := by
  have hrange : 0 ≤ (n : Int) ∧ (n : Int) ≤ (bound : Int) - 1 := by omega
  simp only [Shape.below, Shape.inRange, Json.nat, Json.int?, Option.bind_eq_bind, Option.bind_some,
    hrange]
  rfl

theorem shape_height (height : Height) : Shape.word32 (heightJson height) = some height := by
  rw [Shape.word32, heightJson, shape_below height.toNat_lt, Option.map_some, UInt32.ofNat_toNat]

theorem shape_hashes (ids : List Hash256) :
    Shape.list Shape.hash (.array (ids.map hashJson)) = some ids := by
  simp only [Shape.list, Json.items?, Option.bind_eq_bind, Option.bind_some]
  induction ids with
  | nil => rfl
  | cons id ids ih =>
    rw [List.map_cons, List.mapM_cons, shape_hash, ih]
    rfl

/-- A value or `null` in its place reads as what there is of it. -/
theorem optional_or_null {α : Type} {json : α → Json} {read : Json → Option α}
    (h : ∀ a, read (json a) = some a)
    (hnull : ∀ a, json a ≠ .null) (a : Option α) :
    (Shape.Slot.value (.orNull json a)).optional read = some a := by
  cases a with
  | none => rfl
  | some a =>
    have hread : (Shape.Slot.value (json a)).optional read = (read (json a)).map some := by
      generalize hjson : json a = value
      cases value with
      | null => exact absurd hjson (hnull a)
      | _ => rfl
    rw [Json.orNull, hread, h, Option.map_some]

theorem optional_hash (hash : Option BlockHash) :
    (Shape.Slot.value (.orNull hashJson hash)).optional Shape.hash = some hash :=
  optional_or_null shape_hash nofun hash

theorem optional_height (height : Option Height) :
    (Shape.Slot.value (.orNull heightJson height)).optional Shape.word32 = some height :=
  optional_or_null shape_height nofun height

/-- A node's word on the place of a transaction is understood. -/
theorem node_reads_placement (t : Transaction × Option BlockHash) :
    FullNode.locationShape (placementJson t) = some ⟨t.2, none⟩ := by
  have hslots : Shape.slots [["blockhash"]] (placementJson t) =
      some [.value (.orNull hashJson t.2)] := rfl
  simp only [FullNode.locationShape, hslots, Option.bind_eq_bind, Option.bind_some, optional_hash]
  rfl

theorem node_reads_tip (height : Height) :
    FullNode.tipShape (nodeTipJson height) = some height := by
  have hslots : Shape.slots [["blocks"]] (nodeTipJson height) = some [.value (heightJson height)] :=
    rfl
  simp only [FullNode.tipShape, hslots, Option.bind_eq_bind, Option.bind_some]
  exact shape_height height

/-- An index's word on a transaction is understood. -/
theorem index_reads_entry (t : Transaction) (height : Option Height) :
    AddressIndex.entryShape (entryJson t height) = some ⟨Hex.encode t.encode, height, none⟩ := by
  have hslots : Shape.slots [["hex"], ["confirmedHeight", "confirmed_height"],
      ["blockhash"]] (entryJson t height) =
      some [.value (.text (Hex.encode t.encode)), .value (.orNull heightJson height), .noKey] := rfl
  simp only [AddressIndex.entryShape, hslots, Option.bind_eq_bind, Option.bind_some,
    optional_height]
  rfl

theorem index_reads_tip (height : Height) :
    AddressIndex.tipShape (indexTipJson height) = some height.toNat := by
  have hslots : Shape.slots [["blocks"]] (indexTipJson height) =
      some [.value (heightJson height)] := rfl
  have hrange : Int64.minValue.toInt ≤ (height.toNat : Int) ∧ (height.toNat : Int) ≤
      Int64.maxValue.toInt := by
    have hbound := height.toNat_lt
    have hleast : Int64.minValue.toInt = -9223372036854775808 := rfl
    have hgreatest : Int64.maxValue.toInt = 9223372036854775807 := rfl
    omega
  simp only [AddressIndex.tipShape, hslots, Option.bind_eq_bind, Option.bind_some,
    Shape.Slot.required, heightJson, Shape.signed64, Shape.inRange, Json.nat, Json.int?,
    if_pos hrange]
  rfl

/-- Where the weight has 64 bits, all sizes have. -/
theorem sizes_lt {b : Block} (h : b.weight < UInt64.size) :
    b.sizes.total < UInt64.size ∧ b.sizes.stripped < UInt64.size ∧
    b.sizes.weight < UInt64.size := by
  -- no size is greater than the weight that they make up
  have hweight : b.weight = 3 * b.baseSize + b.totalSize := rfl
  have htotal : b.sizes.total = b.totalSize := rfl
  have hstripped : b.sizes.stripped = (b.weight - b.totalSize) / 3 := rfl
  exact ⟨by omega, by omega, h⟩

def txidsOf (b : Block) : List Txid := b.transactions.map Transaction.txid

theorem shape_txids (b : Block) :
    Shape.list Shape.hash (.array (b.transactions.map fun t => hashJson t.txid)) =
      some (txidsOf b) := by
  have hmap : (b.transactions.map fun t => hashJson t.txid) = (txidsOf b).map hashJson := by
    rw [txidsOf, List.map_map]
    rfl
  rw [hmap]
  exact shape_hashes _

section Blocks

-- The shapes are read from any slots at all, so that no number has to be looked at in doing it.
variable {json : Json} {hash height size stripped weight txids header : Shape.Slot}
    {facts : BlockFacts}
  {entry : AddressIndex.BlockEntry}

theorem node_block_shape
    (hslots : Shape.slots [["hash"], ["height"], ["size"], ["strippedsize"], ["weight"],
      ["tx"]] json =
      some [hash, height, size, stripped, weight, txids])
    (hhash : hash.required Shape.hash = some facts.hash)
    (hheight : height.required Shape.word32 = some facts.height)
    (hsize : size.required Shape.unsigned64 = some facts.size)
    (hstripped : stripped.required Shape.unsigned64 = some facts.strippedSize)
    (hweight : weight.required Shape.unsigned64 = some facts.weight)
    (htxids : txids.orElse (Shape.list Shape.hash) [] = some facts.txids)
    (hheader : facts.header = none) :
    FullNode.blockShape json = some facts := by
  simp only [FullNode.blockShape, hslots, Option.bind_eq_bind, Option.bind_some, hhash, hheight,
    hsize, hstripped, hweight, htxids, ← hheader]
  rfl

theorem index_block_shape
    (hslots : Shape.slots [["hash"], ["height"], ["header"], ["size"], ["strippedsize"], ["weight"],
      ["txids"]] json =
      some [hash, height, header, size, stripped, weight, txids])
    (hhash : hash.required Shape.hash = some entry.hash)
    (hheight : height.required Shape.word32 = some entry.height)
    (hheader : header.required Shape.text = some entry.header)
    (hsize : size.required Shape.unsigned64 = some entry.size)
    (hstripped : stripped.required Shape.unsigned64 = some entry.strippedSize)
    (hweight : weight.required Shape.unsigned64 = some entry.weight)
    (htxids : txids.orElse (Shape.list Shape.hash) [] = some entry.txids) :
    AddressIndex.blockShape json = some entry := by
  simp only [AddressIndex.blockShape, hslots, Option.bind_eq_bind, Option.bind_some, hhash, hheight,
    hheader, hsize, hstripped, hweight, htxids]
  rfl

theorem required_size {n : Nat} (h : n < UInt64.size) :
    (Shape.Slot.value (.nat n)).required Shape.unsigned64 = some n := shape_below h

theorem required_hash (hash : Hash256) :
    (Shape.Slot.value (hashJson hash)).required Shape.hash = some hash :=
  shape_hash hash

theorem required_height (height : Height) :
    (Shape.Slot.value (heightJson height)).required Shape.word32 = some height :=
  shape_height height

theorem required_text (text : String) :
    (Shape.Slot.value (.text text)).required Shape.text = some text := rfl

theorem or_else_txids (b : Block) :
    (Shape.Slot.value (.array (b.transactions.map fun t => hashJson t.txid))).orElse
      (Shape.list Shape.hash) [] =
      some (txidsOf b) := shape_txids b

variable {p : Height × Block}

/-- A node's word on a block is understood, without the header that it does not look for. -/
theorem node_reads_block (h : p.2.weight < UInt64.size) :
    FullNode.blockShape (blockJson p) =
      some ⟨p.2.header.hash, p.1, p.2.sizes.total, p.2.sizes.stripped, p.2.sizes.weight, none,
        txidsOf p.2⟩ := by
  obtain ⟨htotal, hstripped, hweight⟩ := sizes_lt h
  have hslots : Shape.slots [["hash"], ["height"], ["size"], ["strippedsize"], ["weight"],
      ["tx"]] (blockJson p) =
      some [.value (hashJson p.2.header.hash), .value (heightJson p.1),
        .value (.nat p.2.sizes.total),
        .value (.nat p.2.sizes.stripped), .value (.nat p.2.sizes.weight),
        .value (.array (p.2.transactions.map fun t => hashJson t.txid))] := by
    simp [Shape.slots, blockJson, Json.record, Shape.slotOf]
  exact node_block_shape hslots (required_hash _) (required_height _) (required_size htotal)
      (required_size hstripped)
    (required_size hweight) (or_else_txids _) rfl

/-- An index's word on a block is understood. -/
theorem index_reads_block (h : p.2.weight < UInt64.size) :
    AddressIndex.blockShape (blockJson p) =
      some ⟨p.2.header.hash, p.1, Hex.encode p.2.header.encode, p.2.sizes.total, p.2.sizes.stripped,
        p.2.sizes.weight,
        txidsOf p.2⟩ := by
  obtain ⟨htotal, hstripped, hweight⟩ := sizes_lt h
  have hslots : Shape.slots [["hash"], ["height"], ["header"], ["size"], ["strippedsize"],
      ["weight"], ["txids"]]
      (blockJson p) =
        some [.value (hashJson p.2.header.hash), .value (heightJson p.1),
          .value (.text (Hex.encode p.2.header.encode)),
          .value (.nat p.2.sizes.total), .value (.nat p.2.sizes.stripped),
          .value (.nat p.2.sizes.weight),
          .value (.array (p.2.transactions.map fun t => hashJson t.txid))] := by
    simp [Shape.slots, blockJson, Json.record, Shape.slotOf]
  exact index_block_shape hslots (required_hash _) (required_height _) (required_text _)
      (required_size htotal)
    (required_size hstripped) (required_size hweight) (or_else_txids _)

end Blocks

end Readings

end ChainLens
