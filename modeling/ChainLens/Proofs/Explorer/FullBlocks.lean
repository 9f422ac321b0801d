import ChainLens.Proofs.Chain.BlockParts
import ChainLens.Proofs.Explorer.Attested
import ChainLens.Proofs.Explorer.Division
import ChainLens.Proofs.Explorer.ReportForm

/-!
Blocks together with their transactions. Each transaction is reported in its place, with the
location of the block and without asking for it, and a block is reported with all of its
transactions or not at all.
-/

namespace ChainLens.Explorer

open Lookup

variable {network : Network} {t : List Line}

def LeavesBlocksAlone (q : Query) : Prop := ∀ hash, q ≠ .heightOf hash ∧ q ≠ .blockBytes hash

theorem map_eq_map_of_forall₂ {α β γ : Type} {f : α → γ} {g : β → γ} {l : List α} {l' : List β}
    (h : List.Forall₂ (fun a b => f a = g b) l l') : l.map f = l'.map g := by
  rw [← List.forall₂_eq_eq_eq, List.forall₂_map_left_iff, List.forall₂_map_right_iff]
  exact h

/-- The reports of the transactions in a loaded block, one after the other. -/
def enrichments (network : Network) (loaded : LoadedBlock) : List (Lookup TransactionReport) :=
  let location : Location :=
    { block := some loaded.report.hash, height := some loaded.report.height }
  match loaded.transactions with
  | some ts => ts.map fun t => report network (TxRecord.ofTransaction t) location
  | none => loaded.report.txids.map fun id => listedTransaction network location id

theorem completed_eq (network : Network) (loaded : LoadedBlock) :
    completed network loaded =
      (enrichments network loaded).mapM id >>= fun transactions =>
        pure { block := loaded.report, transactions } := by
  rw [completed, enrichments]
  cases loaded.transactions with
  | some ts => simp only [List.mapM_map, Function.comp_def, id]
  | none => simp only [List.mapM_map, Function.comp_def, id]

section Entries

variable {record : TxRecord} {hash : BlockHash} {height : Height} {r : TransactionReport}

/-- A location with a height is taken over as it is, without a question. -/
theorem located_of_report (h : (report network record ⟨some hash, some height⟩).Succeeds t r) :
    r.confirmedHeight = some height ∧ r.blockHash = some hash ∧ r.txid = record.txid ∧
    r.hex = record.raw := by
  obtain ⟨_, spent, _, found, f, -, -, hfound, -, rfl⟩ := succeeds_report.mp h
  have hheight : some height = found := (succeeds_pure.mp hfound).2
  exact ⟨hheight.symm, rfl, rfl, rfl⟩

/-- A listed transaction is reported where the list has it, with the bytes that were served. -/
theorem located_of_listed {id : Txid}
    (h : (listedTransaction network ⟨some hash, some height⟩ id).Succeeds t r) :
    r.confirmedHeight = some height ∧ r.blockHash = some hash ∧
    (⟨.transactionBytes id, .ok r.hex⟩ : Line) ∈ t := by
  obtain ⟨bytes, rest, rfl, hrest⟩ := succeeds_ask_bind.mp h
  simp only [succeeds_bind, succeeds_sound] at hrest
  obtain ⟨_, record, _, -, ⟨-, hread⟩, hreport⟩ := hrest
  obtain ⟨hheight, hblock, -, hhex⟩ := located_of_report hreport
  have hraw : record.raw = bytes := by
    obtain ⟨tx, -, rfl⟩ := TxRecord.read_eq_ok.mp hread
    rfl
  rw [hhex, hraw]
  exact ⟨hheight, hblock, List.mem_cons_self⟩

theorem asks_report_located (record : TxRecord) (hash : BlockHash) (height : Height) :
    (report network record ⟨some hash, some height⟩).AsksOnly LeavesBlocksAlone :=
  asks_report (fun _ _ => ⟨nofun, nofun⟩) record nofun

theorem asks_completed_located (loaded : LoadedBlock) :
    (completed network loaded).AsksOnly LeavesBlocksAlone := by
  have hlisted (id : Txid) :
      (listedTransaction network ⟨some loaded.report.hash, some loaded.report.height⟩ id).AsksOnly
        LeavesBlocksAlone := by
    have hbytes : (ask (.transactionBytes id)).AsksOnly LeavesBlocksAlone :=
      .ask fun _ => ⟨nofun, nofun⟩
    exact hbytes.bind fun bytes => (AsksOnly.sound _).bind fun record => asks_report_located _ _ _
  rw [completed]
  cases loaded.transactions with
  | some ts => exact (AsksOnly.mapM (fun _ => asks_report_located _ _ _) ts).bind fun rs => .pure _
  | none => exact (AsksOnly.mapM hlisted loaded.report.txids).bind fun rs => .pure _

end Entries

/-- What becomes of a block, by the reply to the question for its bytes. -/
inductive Loads (hash : BlockHash) : Except Failure Bytes → BlockFacts → LoadedBlock → Prop
  | whole {bytes : Bytes} {facts : BlockFacts} {loaded : LoadedBlock}
      (h : fromBytes hash facts bytes = .ok loaded) :
    Loads hash (.ok bytes) facts loaded
  | listed {ability : Ability} {facts : BlockFacts} {loaded : LoadedBlock}
      (h : fromFacts hash facts = .ok loaded) :
    Loads hash (.error (.unsupported ability)) facts loaded

/-- A block is loaded with two questions. -/
theorem succeeds_load {hash : BlockHash} {loaded : LoadedBlock}
    (h : (load hash).Succeeds t loaded) :
    ∃ reply facts, t = [⟨.blockBytes hash, reply⟩, ⟨.blockFacts hash, .ok facts⟩] ∧
    Loads hash reply facts loaded := by
  obtain ⟨reply, _, rfl, hasked⟩ := succeeds_attempt_bind.mp h
  obtain ⟨facts, _, rfl, hloaded⟩ := succeeds_ask_bind.mp hasked
  cases reply with
  | ok bytes =>
    obtain ⟨rfl, hread⟩ := succeeds_sound.mp hloaded
    exact ⟨_, facts, rfl, .whole hread⟩
  | error failure =>
    cases failure with
    | unsupported ability =>
      obtain ⟨rfl, hread⟩ := succeeds_sound.mp hloaded
      exact ⟨_, facts, rfl, .listed hread⟩
    | _ => exact absurd hloaded (not_succeeds_throw _)

/-- The transactions reported with a block, against what was put to the source and what it
replied. -/
structure LinesUp (lines : List Line) (w : FullBlockReport) : Prop where
  length_eq : w.transactions.length = w.block.txids.length
  located : ∀ r ∈ w.transactions, r.confirmedHeight = some w.block.height ∧
    r.blockHash = some w.block.hash
  no_height_asked : ∀ hash reply, (⟨.heightOf hash, reply⟩ : Line) ∉ lines
  /-- If the source serves the block whole, the ids stand in order, and the bytes of the
  transactions are the parts of the bytes of the block. -/
  within : ∀ hash bytes, (⟨.blockBytes hash, .ok bytes⟩ : Line) ∈ lines →
    w.block.hash = hash ∧ w.transactions.map TransactionReport.txid = w.block.txids ∧
      ∃ header, Block.Parts bytes header (w.transactions.map TransactionReport.hex)
  /-- If not, the bytes of each transaction are those served under its id. -/
  fetched : ∀ hash failure, (⟨.blockBytes hash, .error failure⟩ : Line) ∈ lines →
    List.Forall₂ (fun id r =>
      (⟨.transactionBytes id, .ok r.hex⟩ : Line) ∈ lines) w.block.txids w.transactions

variable {loaded : LoadedBlock} {w : FullBlockReport}

/-- The transactions of a listed block are fetched, each once and in order. -/
theorem completed_of_listed (hnone : loaded.transactions = none)
    (h : (completed network loaded).Succeeds t w) :
    w.block = loaded.report ∧
      (∀ r ∈ w.transactions, r.confirmedHeight = some loaded.report.height ∧
        r.blockHash = some loaded.report.hash) ∧
      List.Forall₂ (fun id r =>
        (⟨.transactionBytes id, .ok r.hex⟩ : Line) ∈ t) loaded.report.txids w.transactions := by
  rw [completed] at h
  simp only [hnone, succeeds_bind, succeeds_pure] at h
  obtain ⟨t₁, rs, _, rfl, hrs, rfl, rfl⟩ := h
  refine ⟨rfl, ?_, (forall₂_of_mapM hrs).imp ?_⟩
  · intro r hr
    obtain ⟨id, -, _, hlisted⟩ := exists_succeeds_of_mapM hrs hr
    obtain ⟨hheight, hblock, -⟩ := located_of_listed hlisted
    exact ⟨hheight, hblock⟩
  · intro id r hlisted
    obtain ⟨t', hsub, hsucceeds⟩ := hlisted
    exact List.mem_append_left [] (hsub (located_of_listed hsucceeds).2.2)

/-- The transactions of a block served whole are its own, in order. -/
theorem completed_of_whole {ts : List Transaction} (hsome : loaded.transactions = some ts)
    (h : (completed network loaded).Succeeds t w) :
    w.block = loaded.report ∧
      (∀ r ∈ w.transactions, r.confirmedHeight = some loaded.report.height ∧
        r.blockHash = some loaded.report.hash) ∧
      w.transactions.map TransactionReport.txid = ts.map Transaction.txid ∧
      w.transactions.map TransactionReport.hex = ts.map Transaction.encode := by
  rw [completed] at h
  simp only [hsome, succeeds_bind, succeeds_pure] at h
  obtain ⟨_, rs, _, -, hrs, -, rfl⟩ := h
  have heach : List.Forall₂ (fun (tx : Transaction) (r : TransactionReport) => tx.txid = r.txid ∧
      tx.encode = r.hex)
      ts rs := by
    refine (forall₂_of_mapM hrs).imp ?_
    intro tx r hreport
    obtain ⟨_, -, hsucceeds⟩ := hreport
    obtain ⟨-, -, htxid, hhex⟩ := located_of_report hsucceeds
    exact ⟨htxid.symm, hhex.symm⟩
  refine ⟨rfl, ?_, (map_eq_map_of_forall₂ (heach.imp fun _ _ h => h.1)).symm,
    (map_eq_map_of_forall₂ (heach.imp fun _ _ h => h.2)).symm⟩
  intro r hr
  obtain ⟨tx, -, _, hreport⟩ := exists_succeeds_of_mapM hrs hr
  obtain ⟨hheight, hblock, -, -⟩ := located_of_report hreport
  exact ⟨hheight, hblock⟩

/-- On the way to a block with its transactions, nothing but the loading of the block asks for a
block. -/
theorem succeeds_full_block {ref : BlockRef} (h : (fullBlock network ref).Succeeds t w) :
    ∃ hash reply facts loaded t',
      (∀ line ∈ t, line = ⟨.blockBytes hash, reply⟩ ∨ line = ⟨.blockFacts hash, .ok facts⟩ ∨
        LeavesBlocksAlone line.1) ∧
      Loads hash reply facts loaded ∧ t' ⊆ t ∧ (completed network loaded).Succeeds t' w := by
  rw [full_block_eq] at h
  obtain ⟨t₁, hash, _, rfl, hresolve, hrest⟩ := succeeds_bind.mp h
  obtain ⟨_, loaded, t₂, rfl, hload, hcompleted⟩ := succeeds_bind.mp hrest
  obtain ⟨reply, facts, rfl, hloads⟩ := succeeds_load hload
  have hlater : t₂ ⊆ t₁ ++ ([⟨.blockBytes hash, reply⟩, ⟨.blockFacts hash, .ok facts⟩] ++ t₂) :=
    fun _ hline => List.mem_append_right t₁ (List.mem_append_right _ hline)
  refine ⟨hash, reply, facts, loaded, t₂, ?_, hloads, hlater, hcompleted⟩
  intro line hline
  simp only [List.mem_append, List.mem_cons, List.not_mem_nil, or_false] at hline
  rcases hline with hbefore | (hbytes | hfacts) | hafter
  · have hasked := asks_resolve (p := LeavesBlocksAlone) (fun _ => ⟨nofun, nofun⟩)
      (fun _ _ => ⟨nofun, nofun⟩) ref
    exact .inr (.inr (hasked.of_comes hresolve line hbefore))
  · exact .inl hbytes
  · exact .inr (.inl hfacts)
  · exact .inr (.inr ((asks_completed_located loaded).of_comes hcompleted line hafter))

theorem lines_up_of_succeeds {ref : BlockRef} (h : (fullBlock network ref).Succeeds t w) :
    LinesUp t w := by
  obtain ⟨hash, reply, facts, loaded, t', hlines, hloads, hsub, hcompleted⟩ := succeeds_full_block h
  have hno_height : ∀ hash' reply', (⟨.heightOf hash', reply'⟩ : Line) ∉ t := by
    intro hash' reply' hline
    rcases hlines _ hline with hbytes | hfacts | haside
    · cases hbytes
    · cases hfacts
    · exact (haside hash').1 rfl
  have hserved : ∀ hash' reply', (⟨.blockBytes hash', reply'⟩ : Line) ∈ t → hash' = hash ∧
      reply' = reply := by
    intro hash' reply' hline
    rcases hlines _ hline with hbytes | hfacts | haside
    · cases hbytes
      exact ⟨rfl, rfl⟩
    · cases hfacts
    · exact absurd rfl (haside hash').2
  cases hloads with
  | whole hread =>
    obtain ⟨b, hdecode, hhash, rfl⟩ := from_bytes_eq_ok_iff.mp hread
    obtain ⟨hblock, hlocated, htxids, hhexes⟩ := completed_of_whole rfl hcompleted
    have hids : w.transactions.map TransactionReport.txid = w.block.txids := by
      rw [htxids, hblock]
      rfl
    refine { length_eq := ?_, located := hblock ▸ hlocated, no_height_asked := hno_height,
             within := ?_, fetched := ?_ }
    · rw [← hids, List.length_map]
    · intro hash' bytes' hline
      obtain ⟨rfl, hreply⟩ := hserved hash' _ hline
      obtain rfl := Except.ok.inj hreply
      refine ⟨?_, hids, b.header.encode, ?_⟩
      · rw [hblock, ← hhash]
        rfl
      · rw [hhexes]
        exact Block.parts_iff.mpr ⟨b, hdecode, rfl, rfl⟩
    · intro hash' failure hline
      cases (hserved hash' _ hline).2
  | listed hread =>
    obtain ⟨hblock, hlocated, heach⟩ := completed_of_listed (transactions_of_facts hread) hcompleted
    rw [← hblock] at heach
    refine { length_eq := heach.length_eq.symm, located := hblock ▸ hlocated,
             no_height_asked := hno_height, within := ?_, fetched := ?_ }
    · -- the source has said that it serves no bytes of blocks
      intro hash' bytes' hline
      cases (hserved hash' _ hline).2
    · intro _ _ _
      exact heach.imp fun id r hline => hsub hline

section Failures

variable {σ α β : Type} {source : Source (StateM σ)} {memory between : σ}

/-- What follows a success goes on from the memory that the success left. -/
theorem result_from_bind_of_ok {x : Lookup α} {a : α}
    (h : Id.run ((x.runWith source).run memory) = (.ok a, between))
    (f : α → Lookup β) : (x >>= f).resultFrom source memory = (f a).resultFrom source between := by
  rw [resultFrom, run_with_bind, StateT.run_bind, Id.run_bind, h]
  rfl

theorem result_from_bind_of_error {x : Lookup α} {failure : Failure}
    (h : x.resultFrom source memory = .error failure)
    (f : α → Lookup β) : (x >>= f).resultFrom source memory = .error failure := by
  rw [resultFrom] at h
  rw [resultFrom, run_with_bind, StateT.run_bind, Id.run_bind]
  cases hrun : Id.run ((x.runWith source).run memory) with
  | mk result left =>
    rw [hrun] at h
    obtain rfl : result = .error failure := h
    rfl

/-- Of lookups one after the other, the first to fail in its turn decides. -/
theorem result_from_turn {done left : List (Lookup α)} {x : Lookup α} {as : List α}
    {failure : Failure}
    (hdone : Id.run (((done.mapM id).runWith source).run memory) = (.ok as, between))
    (hx : x.resultFrom source between = .error failure) :
    ((done ++ x :: left).mapM id).resultFrom source memory = .error failure := by
  rw [List.mapM_append, result_from_bind_of_ok hdone, List.mapM_cons]
  exact result_from_bind_of_error (result_from_bind_of_error hx _) _

/-- If one of them fails whatever is remembered, all of them do together, for the failure of one of
them. -/
theorem result_from_list {l : List (Lookup α)} {x : Lookup α} (hx : x ∈ l)
    (hfails : ∀ m, ∃ failure, x.resultFrom source m = .error failure) (memory : σ) :
    ∃ failure, (l.mapM id).resultFrom source memory = .error failure ∧
      ∃ y ∈ l, ∃ m, y.resultFrom source m = .error failure := by
  induction l generalizing memory with
  | nil => cases hx
  | cons first l ih =>
    rw [List.mapM_cons]
    cases hfirst : Id.run ((first.runWith source).run memory) with
    | mk result between =>
      have hresult : first.resultFrom source memory = result := congrArg Prod.fst hfirst
      cases result with
      | error failure =>
        exact ⟨failure, result_from_bind_of_error hresult _, first, List.mem_cons_self,
          memory, hresult⟩
      | ok a =>
        -- the first has succeeded, so it is not the one that never does
        have hlater : x ∈ l := by
          rcases List.mem_cons.mp hx with rfl | hlater
          · obtain ⟨failure, hfailure⟩ := hfails memory
            rw [hresult] at hfailure
            cases hfailure
          · exact hlater
        obtain ⟨failure, hlist, y, hy, m, hfailed⟩ := ih hlater between
        refine ⟨failure, ?_, y, List.mem_cons_of_mem first hy, m, hfailed⟩
        rw [id, result_from_bind_of_ok hfirst]
        exact result_from_bind_of_error hlist _

/-- A block is loaded, and not all of its transactions can be reported. -/
structure AllOrNothing (source : Source (StateM σ)) (network : Network) (ref : BlockRef)
    (memory : σ) : Prop where
  in_turn : ∀ loaded between done x left rs m failure,
    Id.run (((resolve ref >>= load).runWith source).run memory) = (.ok loaded, between) →
    enrichments network loaded = done ++ x :: left →
    Id.run (((done.mapM id).runWith source).run between) = (.ok rs, m) →
      x.resultFrom source m = .error failure →
    (fullBlock network ref).resultFrom source memory = .error failure
  whatever_is_remembered : ∀ loaded,
    (resolve ref >>= load).resultFrom source memory = .ok loaded →
    ∀ x ∈ enrichments network loaded, (∀ m, ∃ failure, x.resultFrom source m = .error failure) →
    ∃ failure, (fullBlock network ref).resultFrom source memory = .error failure ∧
      ∃ y ∈ enrichments network loaded, ∃ m, y.resultFrom source m = .error failure

theorem full_block_eq_completed (network : Network) (ref : BlockRef) :
    fullBlock network ref = (resolve ref >>= load) >>= completed network := by
  rw [full_block_eq, bind_assoc]

/-- One transaction that cannot be reported leaves no full block. -/
theorem all_or_nothing (source : Source (StateM σ)) (network : Network) (ref : BlockRef)
    (memory : σ) :
    AllOrNothing source network ref memory where
  in_turn := by
    intro loaded between done x left rs m failure hload hparts hdone hx
    rw [full_block_eq_completed, result_from_bind_of_ok hload, completed_eq, hparts]
    exact result_from_bind_of_error (result_from_turn hdone hx) _
  whatever_is_remembered := by
    intro loaded hload x hx hfails
    obtain ⟨between, hrun⟩ : ∃ between,
        Id.run (((resolve ref >>= load).runWith source).run memory) = (.ok loaded, between) :=
          ⟨_, Prod.ext hload rfl⟩
    obtain ⟨failure, hlist, hone⟩ := result_from_list hx hfails between
    refine ⟨failure, ?_, hone⟩
    rw [full_block_eq_completed, result_from_bind_of_ok hrun, completed_eq]
    exact result_from_bind_of_error hlist _

end Failures

/-- Whatever the source and whatever it remembers, a block is reported with each of its transactions
in its place, or not at all. -/
theorem full_blocks_line_up {σ : Type} (source : Source (StateM σ)) (network : Network)
    (ref : BlockRef) (memory : σ) :
    (∀ w, (fullBlock network ref).resultFrom source memory = .ok w →
      LinesUp ((fullBlock network ref).lines source memory) w) ∧
    AllOrNothing source network ref memory :=
  ⟨fun _ h => lines_up_of_succeeds (succeeds_lines h), all_or_nothing source network ref memory⟩

def pairHash : BlockHash where
  bytes := [157, 114, 220, 72, 87, 239, 208, 112, 32, 13, 42, 101, 90, 119, 213, 54, 217, 135, 205,
    223, 240, 190, 39, 142,
    15, 249, 250, 172, 149, 110, 248, 69]
  length_eq := rfl

/-- A source that serves a block of two transactions, and no transaction outside of it. -/
def pairSource : Source (StateM Unit) where
  answer
    | .blockBytes _ => pure (.ok pairBlockBytes)
    | .blockFacts hash => pure (.ok ⟨hash, 5, 0, 0, 0, none, []⟩)
    | _ => pure (.error (.unsupported .rawBlocks))

/-- A block of two transactions, served whole. -/
theorem full_blocks_line_up_pair :
    ∃ w, (fullBlock .regtest (.hash pairHash)).resultFrom pairSource () = .ok w ∧
    w.transactions.length = 2 ∧
      LinesUp ((fullBlock .regtest (.hash pairHash)).lines pairSource ()) w := by
  have hcount : ((fullBlock .regtest (.hash pairHash)).resultFrom pairSource ()).toOption.map
      (fun w => w.transactions.length) = some 2 := by decide +kernel
  cases hresult : (fullBlock .regtest (.hash pairHash)).resultFrom pairSource () with
  | error failure =>
    rw [hresult] at hcount
    cases hcount
  | ok w =>
    rw [hresult] at hcount
    exact ⟨w, rfl, Option.some.inj hcount,
      (full_blocks_line_up pairSource .regtest (.hash pairHash) ()).1 w hresult⟩

end ChainLens.Explorer
