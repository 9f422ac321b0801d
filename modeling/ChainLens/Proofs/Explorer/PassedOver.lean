import ChainLens.Explorer.Call
import ChainLens.Proofs.Explorer.BlockPaths
import ChainLens.Proofs.Explorer.ReportForm
import Mathlib.Data.List.Nodup

/-!
Failures that do not make a call fail. A report does without a transaction that an input spends from
and without the height of a block that is gone, and says so; a block can be reported without its
bytes by a source that serves none.
-/

namespace ChainLens.Explorer

open Lookup

def Call.reports : (call : Call) → call.Result → List TransactionReport
  | .transaction _, r => [r]
  | .fullBlock _, w => w.transactions
  | .transactions _, rs => rs
  | _, _ => []

/-- A failure that was passed over, and what shows of it in reports. -/
inductive PassedOver (reports : List TransactionReport) : Line → Prop
  | previous {r : TransactionReport} {input : InputReport} (hr : r ∈ reports)
      (hinput : input ∈ r.inputs) (spends : input.coinbase = false)
      (unresolved : input.resolved = false) (failure : Failure) :
    PassedOver reports ⟨.transactionBytes input.txid, .error failure⟩
  | vanished {r : TransactionReport} {hash : BlockHash} (hr : r ∈ reports)
      (hblock : r.blockHash = some hash) (hheight : r.confirmedHeight = none) (missing : Missing) :
    PassedOver reports ⟨.heightOf hash, .error (.notFound missing)⟩
  | bytes (hash : BlockHash) (ability : Ability) :
    PassedOver reports ⟨.blockBytes hash, .error (.unsupported ability)⟩

def IsAnswer (line : Line) : Prop := ∃ a, line.2 = .ok a

/-- Reports tell of all failures in the transcript they come from, and have no block without a
height but for one that could not be found. -/
structure Tells (reports : List TransactionReport) (t : List Line) : Prop where
  lines : ∀ line ∈ t, IsAnswer line ∨ PassedOver reports line
  heights : ∀ r ∈ reports, ∀ hash, r.blockHash = some hash → r.confirmedHeight = none →
    ∃ missing, (⟨.heightOf hash, .error (.notFound missing)⟩ : Line) ∈ t

variable {network : Network} {reports more : List TransactionReport} {t : List Line}

/-- A failure that shows in some reports shows in more. -/
theorem PassedOver.mono {line : Line} (h : PassedOver reports line) (hsub : reports ⊆ more) :
    PassedOver more line := by
  cases h with
  | previous hr hinput spends unresolved failure =>
    exact .previous (hsub hr) hinput spends unresolved failure
  | vanished hr hblock hheight missing => exact .vanished (hsub hr) hblock hheight missing
  | bytes hash ability => exact .bytes hash ability

theorem Tells.nil : Tells [] [] :=
  ⟨fun _ h => absurd h List.not_mem_nil, fun _ h => absurd h List.not_mem_nil⟩

theorem Tells.append {t' : List Line} (h : Tells reports t) (h' : Tells more t') :
    Tells (reports ++ more) (t ++ t') where
  lines line hline := by
    rcases List.mem_append.mp hline with hline | hline
    · exact (h.lines line hline).imp_right fun hp => hp.mono (List.subset_append_left _ _)
    · exact (h'.lines line hline).imp_right fun hp => hp.mono (List.subset_append_right _ _)
  heights r hr hash hblock hheight := by
    rcases List.mem_append.mp hr with hr | hr
    · obtain ⟨missing, hline⟩ := h.heights r hr hash hblock hheight
      exact ⟨missing, List.mem_append_left _ hline⟩
    · obtain ⟨missing, hline⟩ := h'.heights r hr hash hblock hheight
      exact ⟨missing, List.mem_append_right _ hline⟩

/-- An answer is nothing to tell of. -/
theorem Tells.cons {q : Query} (a : q.Result) (h : Tells reports t) :
    Tells reports (⟨q, .ok a⟩ :: t) where
  lines line hline := by
    rcases List.mem_cons.mp hline with rfl | hline
    · exact .inl ⟨a, rfl⟩
    · exact h.lines line hline
  heights r hr hash hblock hheight := by
    obtain ⟨missing, hline⟩ := h.heights r hr hash hblock hheight
    exact ⟨missing, List.mem_cons_of_mem _ hline⟩

theorem tells_ask {q : Query} {a : q.Result} (h : (ask q).Succeeds t a) : Tells [] t := by
  obtain rfl := succeeds_ask.mp h
  exact Tells.nil.cons a

/-- A list of lookups tells as its parts do. -/
theorem tells_mapM {α β : Type} {f : α → Lookup β} {g : β → List TransactionReport}
    (hf : ∀ a t b, (f a).Succeeds t b → Tells (g b) t) {l : List α} {bs : List β}
    (h : (l.mapM f).Succeeds t bs) :
    Tells (bs.flatMap g) t := by
  induction l generalizing t bs with
  | nil =>
    obtain ⟨rfl, rfl⟩ := succeeds_pure.mp h
    exact .nil
  | cons a l ih =>
    simp only [List.mapM_cons, succeeds_bind, succeeds_pure] at h
    obtain ⟨t₁, b, t₂, rfl, hb, t₃, bs, t₄, rfl, hbs, rfl, rfl⟩ := h
    rw [List.append_nil, List.flatMap_cons]
    exact (hf a t₁ b hb).append (ih hbs)

/-- If each report tells of the failures on its way, the list tells of all. -/
theorem tells_reports {α : Type} {f : α → Lookup TransactionReport}
    (hf : ∀ a t r, (f a).Succeeds t r → Tells [r] t) {l : List α} {rs : List TransactionReport}
    (h : (l.mapM f).Succeeds t rs) : Tells rs t := by
  have hall : Tells (rs.flatMap fun r => [r]) t := tells_mapM hf h
  rwa [List.flatMap_singleton'] at hall

theorem nodup_erase_dups {α : Type} [DecidableEq α] (l : List α) : l.eraseDups.Nodup := by
  match l with
  | [] => exact List.nodup_nil
  | a :: l =>
    rw [List.eraseDups_cons, List.nodup_cons, List.mem_eraseDups]
    exact ⟨by simp, nodup_erase_dups _⟩
termination_by l.length
decreasing_by exact Nat.lt_succ_of_le (List.length_filter_le _ _)

/-- Every line of a transcript of spent transactions has its place in what they come to. -/
theorem succeeds_look_up_spent {ids : List Txid} {spent : Spent}
    (h : (lookUpSpent ids).Succeeds t spent) :
    spent.map Prod.fst = ids ∧
      ∀ line ∈ t, ∃ id ∈ ids, ∃ reply, line = ⟨.transactionBytes id, reply⟩ ∧
      (id, spentRecord? reply) ∈ spent := by
  induction ids generalizing t spent with
  | nil =>
    obtain ⟨rfl, rfl⟩ := succeeds_pure.mp h
    exact ⟨rfl, fun _ hline => absurd hline List.not_mem_nil⟩
  | cons id ids ih =>
    obtain ⟨reply, rest, rfl, hrest⟩ := succeeds_attempt_bind.mp h
    simp only [succeeds_bind, succeeds_pure] at hrest
    obtain ⟨t₁, others, _, rfl, hothers, rfl, rfl⟩ := hrest
    obtain ⟨hids, hlines⟩ := ih hothers
    refine ⟨by rw [List.map_cons, hids], ?_⟩
    intro line hline
    rw [List.append_nil] at hline
    rcases List.mem_cons.mp hline with rfl | hline
    · exact ⟨id, List.mem_cons_self, reply, rfl, List.mem_cons_self⟩
    · obtain ⟨other, hother, reply', rfl, hmem⟩ := hlines line hline
      exact ⟨other, List.mem_cons_of_mem _ hother, reply', rfl, List.mem_cons_of_mem _ hmem⟩

/-- An input whose transaction could not be had is reported as unresolved, under the id it names. -/
theorem unresolved_of_lookup (network : Network) {spent : Spent} {input : TxInput}
    (hcoinbase : input.isCoinbase = false)
    (h : spent.lookup input.previousTxid = some none) :
    (reportInput network spent input).txid = input.previousTxid ∧
      (reportInput network spent input).coinbase = false ∧
      (reportInput network spent input).resolved = false := by
  have hspent : spentOutput? spent input = none := by simp [spentOutput?, h]
  rw [report_input_unknown network hcoinbase hspent]
  exact ⟨rfl, hcoinbase, rfl⟩

/-- A height is given with the location, or has been asked for. -/
theorem succeeds_confirmed_height {location : Location} {height : Option Height}
    (h : (confirmedHeight location).Succeeds t height) :
    (t = [] ∧ (height = none → location.block = none)) ∨
      ∃ hash, location.block = some hash ∧
        ((∃ found, t = [⟨.heightOf hash, .ok found⟩] ∧ height = some found) ∨
          ∃ missing, t = [⟨.heightOf hash, .error (.notFound missing)⟩] ∧ height = none) := by
  obtain ⟨block, given⟩ := location
  cases given with
  | some given =>
    obtain ⟨rfl, rfl⟩ := succeeds_pure.mp h
    exact .inl ⟨rfl, fun hnone => absurd hnone (Option.some_ne_none given)⟩
  | none =>
    cases block with
    | none => exact .inl ⟨(succeeds_pure.mp h).1, fun _ => rfl⟩
    | some hash =>
      obtain ⟨reply, rest, rfl, hrest⟩ := succeeds_attempt_bind.mp h
      refine .inr ⟨hash, rfl, ?_⟩
      cases reply with
      | ok found =>
        obtain ⟨rfl, rfl⟩ := succeeds_pure.mp hrest
        exact .inl ⟨found, rfl, rfl⟩
      | error failure =>
        -- only a block that does not exist is passed over
        cases failure with
        | notFound missing =>
          obtain ⟨rfl, rfl⟩ := succeeds_pure.mp hrest
          exact .inr ⟨missing, rfl, rfl⟩
        | _ => exact absurd hrest (not_succeeds_throw _)

/-- A report tells of the transactions and the block that could not be had for it. -/
theorem tells_report {record : TxRecord} {location : Location} {r : TransactionReport}
    (h : (report network record location).Succeeds t r) : Tells [r] t := by
  obtain ⟨t₁, spent, t₂, height, fee, rfl, hspent, hheight, -, rfl⟩ := succeeds_report.mp h
  obtain ⟨hids, hlines⟩ := succeeds_look_up_spent hspent
  have hheights := succeeds_confirmed_height hheight
  constructor
  · intro line hline
    rcases List.mem_append.mp hline with hline | hline
    · -- a transaction that an input spends from
      obtain ⟨id, hid, reply, rfl, hmem⟩ := hlines line hline
      cases reply with
      | ok bytes => exact .inl ⟨bytes, rfl⟩
      | error failure =>
        obtain ⟨input, hinput, hcoinbase, rfl⟩ := mem_spent_txids.mp hid
        have hnodup : (spent.map Prod.fst).Nodup := by
          rw [hids]
          exact nodup_erase_dups _
        obtain ⟨htxid, hspends, hunresolved⟩ :=
          unresolved_of_lookup network hcoinbase (lookup_of_mem hnodup hmem)
        rw [← htxid]
        exact .inr
          (.previous List.mem_cons_self (List.mem_map_of_mem hinput) hspends hunresolved failure)
    · -- the height of the block
      rcases hheights with ⟨rfl, -⟩ | ⟨hash, hblock, ⟨found, rfl, rfl⟩ | ⟨missing, rfl, rfl⟩⟩
      · exact absurd hline List.not_mem_nil
      · obtain rfl := List.mem_singleton.mp hline
        exact .inl ⟨found, rfl⟩
      · obtain rfl := List.mem_singleton.mp hline
        exact .inr (.vanished List.mem_cons_self hblock rfl missing)
  · intro r hr hash hblock hnone
    obtain rfl := List.mem_singleton.mp hr
    rcases hheights with ⟨-, hgone⟩ | ⟨other, hother, ⟨found, -, hfound⟩ | ⟨missing, rfl, -⟩⟩
    · rw [hgone hnone] at hblock
      cases hblock
    · rw [hfound] at hnone
      cases hnone
    · obtain rfl := Option.some.inj (hother.symm.trans hblock)
      exact ⟨missing, List.mem_append_right _ List.mem_cons_self⟩

theorem tells_transaction {id : Txid} {r : TransactionReport}
    (h : (transaction network id).Succeeds t r) :
    Tells [r] t := by
  obtain ⟨⟨bytes, location⟩, rest, rfl, hrest⟩ := succeeds_ask_bind.mp h
  cases hread : TxRecord.read bytes with
  | error flaw =>
    simp only [hread] at hrest
    exact absurd hrest (not_succeeds_throw _)
  | ok record =>
    simp only [hread] at hrest
    exact (tells_report hrest).cons _

/-- A block is loaded without its bytes only if the source serves none. -/
theorem tells_load {hash : BlockHash} {loaded : LoadedBlock} (h : (load hash).Succeeds t loaded) :
    Tells [] t := by
  obtain ⟨bytes, asked, rfl, hasked⟩ := succeeds_attempt_bind.mp h
  obtain ⟨facts, rest, rfl, hrest⟩ := succeeds_ask_bind.mp hasked
  have hloaded : Tells [] [⟨.blockFacts hash, .ok facts⟩] := Tells.nil.cons facts
  cases bytes with
  | ok bytes =>
    obtain ⟨rfl, -⟩ := succeeds_sound.mp hrest
    exact hloaded.cons bytes
  | error failure =>
    cases failure with
    | unsupported ability =>
      -- no other failure of the bytes is passed over
      obtain ⟨rfl, -⟩ := succeeds_sound.mp hrest
      refine ⟨?_, fun r hr => absurd hr List.not_mem_nil⟩
      intro line hline
      rcases List.mem_cons.mp hline with rfl | hline
      · exact .inr (.bytes hash ability)
      · exact hloaded.lines line hline
    | _ => exact absurd hrest (not_succeeds_throw _)

theorem tells_hash_at {height : Height} {hash : BlockHash} (h : (hashAt height).Succeeds t hash) :
    Tells [] t := by
  obtain ⟨tip, rest, rfl, hrest⟩ := succeeds_ask_bind.mp h
  obtain ⟨-, hasked⟩ := succeeds_guarded.mp hrest
  exact (tells_ask hasked).cons tip

/-- A reference is resolved only when nothing fails. -/
theorem tells_resolve {ref : BlockRef} {hash : BlockHash} (h : (resolve ref).Succeeds t hash) :
    Tells [] t := by
  cases ref with
  | height height => exact tells_hash_at h
  | hash given =>
    obtain ⟨rfl, -⟩ := succeeds_pure.mp h
    exact .nil

theorem tells_block_by_hash {hash : BlockHash} {r : BlockReport}
    (h : (blockByHash hash).Succeeds t r) :
    Tells [] t := by
  simp only [blockByHash, succeeds_bind, succeeds_pure] at h
  obtain ⟨t₁, loaded, _, rfl, hload, rfl, -⟩ := h
  rw [List.append_nil]
  exact tells_load hload

theorem tells_listed_transaction {location : Location} {id : Txid} {r : TransactionReport}
    (h : (listedTransaction network location id).Succeeds t r) : Tells [r] t := by
  obtain ⟨bytes, rest, rfl, hrest⟩ := succeeds_ask_bind.mp h
  simp only [succeeds_bind, succeeds_sound] at hrest
  obtain ⟨_, record, t₂, rfl, ⟨rfl, -⟩, hreport⟩ := hrest
  exact (tells_report hreport).cons bytes

theorem tells_completed {loaded : LoadedBlock} {w : FullBlockReport}
    (h : (completed network loaded).Succeeds t w) :
    Tells w.transactions t := by
  rw [completed] at h
  cases htransactions : loaded.transactions with
  | some ts =>
    simp only [htransactions, succeeds_bind, succeeds_pure] at h
    obtain ⟨t', rs, _, rfl, hrs, rfl, rfl⟩ := h
    rw [List.append_nil]
    exact tells_reports (fun _ _ _ h => tells_report h) hrs
  | none =>
    -- the transactions are only listed, so each has to be fetched before it is reported
    simp only [htransactions, succeeds_bind, succeeds_pure] at h
    obtain ⟨t', rs, _, rfl, hrs, rfl, rfl⟩ := h
    rw [List.append_nil]
    exact tells_reports (fun _ _ _ h => tells_listed_transaction h) hrs

/-- A full block tells of the failures on the way to any of its transactions. -/
theorem tells_full_block {ref : BlockRef} {w : FullBlockReport}
    (h : (fullBlock network ref).Succeeds t w) :
    Tells w.transactions t := by
  rw [full_block_eq] at h
  obtain ⟨t₁, hash, t₂, rfl, hresolve, hrest⟩ := succeeds_bind.mp h
  obtain ⟨t₃, loaded, t₄, rfl, hload, hcompleted⟩ := succeeds_bind.mp hrest
  exact (tells_resolve hresolve).append ((tells_load hload).append (tells_completed hcompleted))

theorem tells_summary_at {height : Nat} {s : BlockSummary} (h : (summaryAt height).Succeeds t s) :
    Tells [] t := by
  obtain ⟨hash, rest, rfl, hrest⟩ := succeeds_ask_bind.mp h
  simp only [succeeds_bind, succeeds_pure] at hrest
  obtain ⟨t₁, r, _, rfl, hr, rfl, -⟩ := hrest
  rw [List.append_nil]
  exact (tells_block_by_hash hr).cons hash

/-- A page of summaries comes about only when nothing fails. -/
theorem tells_summaries {start : Height} {limit : UInt32} {page : List BlockSummary}
    (h : (summaries start limit).Succeeds t page) : Tells [] t := by
  obtain ⟨-, hasked⟩ := succeeds_guarded.mp h
  obtain ⟨tip, rest, rfl, hrest⟩ := succeeds_ask_bind.mp hasked
  by_cases habove : tip < start
  · rw [if_pos habove] at hrest
    obtain ⟨rfl, -⟩ := succeeds_pure.mp hrest
    exact Tells.nil.cons tip
  · rw [if_neg habove] at hrest
    -- no line of a summary is about a transaction, so there are no reports to tell of anything
    have hlines : Tells (page.flatMap fun _ => []) rest :=
      tells_mapM (fun _ _ _ h => tells_summary_at h) hrest
    rw [List.flatMap_eq_nil_iff.mpr fun _ _ => rfl] at hlines
    exact hlines.cons tip

theorem tells_history {address : String} {ids : List Txid}
    (h : (history network address).Succeeds t ids) :
    Tells [] t := by
  obtain ⟨script, -, hasked⟩ := succeeds_accept_bind.mp h
  exact tells_ask hasked

theorem tells_transactions {address : String} {rs : List TransactionReport}
    (h : (transactions network address).Succeeds t rs) : Tells rs t := by
  obtain ⟨t₁, ids, t₂, rfl, hids, hrs⟩ := succeeds_bind.mp h
  exact (tells_history hids).append (tells_reports (fun _ _ _ h => tells_transaction h) hrs)

theorem tells_unspent {address : String} {outputs : List UnspentReport}
    (h : (unspent network address).Succeeds t outputs) : Tells [] t := by
  obtain ⟨script, -, hasked⟩ := succeeds_accept_bind.mp h
  obtain ⟨found, rest, rfl, hrest⟩ := succeeds_ask_bind.mp hasked
  obtain ⟨rfl, -⟩ := succeeds_pure.mp hrest
  exact Tells.nil.cons found

theorem tells_ranking {offset limit : UInt64} {page : RankingPage}
    (h : (ranking network offset limit).Succeeds t page) : Tells [] t := by
  obtain ⟨-, hasked⟩ := succeeds_guarded.mp h
  obtain ⟨count, rest, rfl, hcounted⟩ := succeeds_ask_bind.mp hasked
  obtain ⟨-, hholders⟩ := succeeds_guarded.mp hcounted
  obtain ⟨holders, rest, rfl, hpage⟩ := succeeds_ask_bind.mp hholders
  obtain ⟨rfl, -⟩ := succeeds_pure.mp hpage
  exact (Tells.nil.cons holders).cons count

/-- Whatever the replies, what a call returns tells of the failures that it passed over. -/
theorem tells_call (network : Network) (call : Call) {result : call.Result}
    (h : (call.lookup network).Succeeds t result) : Tells (call.reports result) t := by
  cases call with
  | status => exact tells_ask h
  | transaction id => exact tells_transaction h
  | block ref =>
    obtain ⟨t₁, hash, t₂, rfl, hresolve, hr⟩ := succeeds_bind.mp h
    exact (tells_resolve hresolve).append (tells_block_by_hash hr)
  | fullBlock ref => exact tells_full_block h
  | summaries start limit => exact tells_summaries h
  | history address => exact tells_history h
  | transactions address => exact tells_transactions h
  | rank address =>
    obtain ⟨script, -, hasked⟩ := succeeds_accept_bind.mp h
    exact tells_ask hasked
  | unspent address => exact tells_unspent h
  | ranking offset limit => exact tells_ranking h
  | broadcast text =>
    obtain ⟨hex, -, hasked⟩ := succeeds_accept_bind.mp h
    exact tells_ask hasked

end ChainLens.Explorer
