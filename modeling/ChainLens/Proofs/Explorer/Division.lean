import ChainLens.Explorer.Call
import ChainLens.Proofs.Explorer.BlockPaths
import ChainLens.Proofs.Explorer.Questions
import ChainLens.Proofs.Source.Asked

/-!
A node and an index that divide the work. Every call is made with one of them as if it were alone,
and the other hears nothing of it; only for the reports of a history both are asked, the index for
the ids and then the node for each report.
-/

namespace ChainLens

def Query.OfChain (q : Query) : Prop := q.concernsScripts = false

def Query.OfScripts (q : Query) : Prop := q.concernsScripts = true

namespace Source

variable {m : Type → Type}

theorem divided_of_chain (node index : Source m) {q : Query} (h : q.OfChain) :
    (divided node index).answer q = node.answer q := by
  have hnot : ¬ q.concernsScripts = true := by
    rw [h]
    exact Bool.false_ne_true
  exact if_neg hnot

theorem divided_of_scripts (node index : Source m) {q : Query} (h : q.OfScripts) :
    (divided node index).answer q = index.answer q := if_pos h

/-- The divided source, with a record of what reaches the node and another of what reaches the
index. -/
def dividedRecorded [Monad m] (node index : Source m) :
    Source (StateT (List Query × List Query) m) :=
  divided (node.recorded.zoom Prod.fst fun asked both => (asked, both.2))
    (index.recorded.zoom Prod.snd fun asked both => (both.1, asked))

end Source

namespace Explorer

open Lookup

variable {network : Network}

section Questions

theorem asks_report_of_chain (record : TxRecord) (location : Location) :
    (report network record location).AsksOnly Query.OfChain :=
  asks_report (fun _ => rfl) record fun _ _ => rfl

theorem asks_transaction (id : Txid) : (transaction network id).AsksOnly Query.OfChain := by
  have hserved : (ask (.transaction id)).AsksOnly Query.OfChain := .ask rfl
  refine hserved.bind fun served => ?_
  cases hread : TxRecord.read served.1 with
  | error flaw =>
    simp only [hread]
    exact .throw _
  | ok record =>
    simp only [hread]
    exact asks_report_of_chain record served.2

theorem asks_resolve {p : Query → Prop} (htip : p .tip) (hblock : ∀ height, p (.blockAt height))
    (ref : BlockRef) :
    (resolve ref).AsksOnly p := by
  cases ref with
  | hash hash => exact .pure hash
  | height height =>
    have hfirst : (ask .tip).AsksOnly p := .ask htip
    refine hfirst.bind fun tip => ?_
    by_cases habove : tip < height
    · rw [if_pos habove]
      exact .throw _
    · rw [if_neg habove]
      exact .ask (hblock height)

theorem asks_load (hash : BlockHash) : (load hash).AsksOnly Query.OfChain := by
  have hbytes : (attempt (.blockBytes hash)).AsksOnly Query.OfChain := .attempt rfl
  have hfacts : (ask (.blockFacts hash)).AsksOnly Query.OfChain := .ask rfl
  refine hbytes.bind fun bytes => hfacts.bind fun facts => ?_
  cases bytes with
  | ok bytes => exact .sound _
  | error failure => cases failure <;> first | exact .sound _ | exact .throw _

theorem asks_block_by_hash (hash : BlockHash) : (blockByHash hash).AsksOnly Query.OfChain :=
  (asks_load hash).bind fun _ => .pure _

theorem asks_completed (loaded : LoadedBlock) :
    (completed network loaded).AsksOnly Query.OfChain := by
  have hlisted (location : Location) (id : Txid) : (listedTransaction network location id).AsksOnly
      Query.OfChain := by
    have hbytes : (ask (.transactionBytes id)).AsksOnly Query.OfChain := .ask rfl
    exact hbytes.bind fun bytes => (AsksOnly.sound _).bind fun record =>
      asks_report_of_chain record location
  rw [completed]
  cases loaded.transactions with
  | some ts => exact (AsksOnly.mapM (fun _ => asks_report_of_chain _ _) ts).bind fun rs => .pure _
  | none => exact (AsksOnly.mapM (hlisted _) loaded.report.txids).bind fun rs => .pure _

theorem asks_summaries (start : Height) (limit : UInt32) :
    (summaries start limit).AsksOnly Query.OfChain := by
  have htip : (ask .tip).AsksOnly Query.OfChain := .ask rfl
  have hline (height : Nat) : (summaryAt height).AsksOnly Query.OfChain := by
    have hhash : (ask (.blockAt (UInt32.ofNat height))).AsksOnly Query.OfChain := .ask rfl
    exact hhash.bind fun hash => (asks_block_by_hash hash).bind fun report => .pure _
  rw [summaries]
  by_cases hlimit : limit = 0
  · rw [if_pos hlimit]
    exact .throw _
  · rw [if_neg hlimit]
    refine htip.bind fun tip => ?_
    by_cases habove : tip < start
    · rw [if_pos habove]
      exact .pure []
    · rw [if_neg habove]
      exact .mapM hline _

theorem asks_history (address : String) : (history network address).AsksOnly Query.OfScripts :=
  (AsksOnly.accept _).bind fun _ => .ask rfl

theorem asks_ranking (offset limit : UInt64) :
    (ranking network offset limit).AsksOnly Query.OfScripts := by
  have hcount : (ask .holderCount).AsksOnly Query.OfScripts := .ask rfl
  have hpage : (ask (.holders offset limit)).AsksOnly Query.OfScripts := .ask rfl
  rw [ranking]
  by_cases hlimit : limit = 0
  · rw [if_pos hlimit]
    exact .throw _
  · rw [if_neg hlimit]
    refine hcount.bind fun count => ?_
    by_cases hend : count ≤ offset
    · rw [if_pos hend]
      exact .throw _
    · rw [if_neg hend]
      exact hpage.bind fun holders => .pure _

end Questions

inductive Call.OfChain : Call → Prop
  | status : OfChain .status
  | transaction (id : Txid) : OfChain (.transaction id)
  | block (ref : BlockRef) : OfChain (.block ref)
  | fullBlock (ref : BlockRef) : OfChain (.fullBlock ref)
  | summaries (start : Height) (limit : UInt32) : OfChain (.summaries start limit)
  | broadcast (text : String) : OfChain (.broadcast text)

inductive Call.OfScripts : Call → Prop
  | history (address : String) : OfScripts (.history address)
  | rank (address : String) : OfScripts (.rank address)
  | unspent (address : String) : OfScripts (.unspent address)
  | ranking (offset limit : UInt64) : OfScripts (.ranking offset limit)

/-- Calls about the chain ask about nothing else. -/
theorem Call.OfChain.asks {call : Call} (h : call.OfChain) :
    (call.lookup network).AsksOnly Query.OfChain := by
  cases h with
  | status => exact .ask rfl
  | transaction id => exact asks_transaction id
  | block ref =>
    exact (asks_resolve (p := Query.OfChain) rfl (fun _ => rfl) ref).bind asks_block_by_hash
  | fullBlock ref =>
    exact (asks_resolve (p := Query.OfChain) rfl (fun _ => rfl) ref).bind fun hash =>
      (asks_load hash).bind asks_completed
  | summaries start limit => exact asks_summaries start limit
  | broadcast text => exact (AsksOnly.accept _).bind fun _ => .ask rfl

/-- Calls about what scripts hold ask about nothing else. -/
theorem Call.OfScripts.asks {call : Call} (h : call.OfScripts) :
    (call.lookup network).AsksOnly Query.OfScripts := by
  cases h with
  | history address => exact asks_history address
  | rank address => exact (AsksOnly.accept _).bind fun _ => .ask rfl
  | unspent address =>
    have hasked (script : Script) : (ask (.unspent script)).AsksOnly Query.OfScripts := .ask rfl
    exact (AsksOnly.accept _).bind fun script => (hasked script).bind fun outputs => .pure _
  | ranking offset limit => exact asks_ranking offset limit

section Work

variable {m : Type → Type} [Monad m]

/-- What a call comes to when a node and an index are asked apart. -/
def callApart (network : Network) (node index : Source m) :
    (call : Call) → m (Except Failure call.Result)
  | .status => status.runWith node
  | .transaction id => (transaction network id).runWith node
  | .block ref => (block ref).runWith node
  | .fullBlock ref => (fullBlock network ref).runWith node
  | .summaries start limit => (summaries start limit).runWith node
  | .broadcast text => (broadcast text).runWith node
  | .history address => (history network address).runWith index
  | .rank address => (rank network address).runWith index
  | .unspent address => (unspent network address).runWith index
  | .ranking offset limit => (ranking network offset limit).runWith index
  | .transactions address => do
    match ← (history network address).runWith index with
    | .ok ids => (ids.mapM (transaction network)).runWith node
    | .error failure => return .error failure

variable (node index : Source m)

theorem run_divided_of_chain {call : Call} (h : call.OfChain) :
    (call.lookup network).runWith (Source.divided node index) =
      (call.lookup network).runWith node :=
  h.asks.run_with_congr fun _ hq => Source.divided_of_chain node index hq

theorem run_divided_of_scripts {call : Call} (h : call.OfScripts) :
    (call.lookup network).runWith (Source.divided node index) =
      (call.lookup network).runWith index :=
  h.asks.run_with_congr fun _ hq => Source.divided_of_scripts node index hq

variable [LawfulMonad m]

/-- Dividing the work comes to asking apart. -/
theorem run_divided (call : Call) :
    (call.lookup network).runWith (Source.divided node index) =
      callApart network node index call := by
  cases call with
  | transactions address =>
    -- the one call that is about both: the index knows the ids, and the node reports each of them
    have hids : (history network address).runWith (Source.divided node index) =
        (history network address).runWith index :=
      (asks_history address).run_with_congr fun _ hq => Source.divided_of_scripts node index hq
    have hreports (ids : List Txid) : (ids.mapM (transaction network)).runWith
        (Source.divided node index) =
        (ids.mapM (transaction network)).runWith node :=
      (AsksOnly.mapM asks_transaction ids).run_with_congr fun _ hq =>
        Source.divided_of_chain node index hq
    rw [Call.lookup, transactions, run_with_bind, hids, callApart]
    apply bind_congr
    intro result
    cases result with
    | ok ids => exact hreports ids
    | error failure => rfl
  | history address => exact run_divided_of_scripts node index (.history address)
  | rank address => exact run_divided_of_scripts node index (.rank address)
  | unspent address => exact run_divided_of_scripts node index (.unspent address)
  | ranking offset limit => exact run_divided_of_scripts node index (.ranking offset limit)
  | status => exact run_divided_of_chain node index .status
  | transaction id => exact run_divided_of_chain node index (.transaction id)
  | block ref => exact run_divided_of_chain node index (.block ref)
  | fullBlock ref => exact run_divided_of_chain node index (.fullBlock ref)
  | summaries start limit => exact run_divided_of_chain node index (.summaries start limit)
  | broadcast text => exact run_divided_of_chain node index (.broadcast text)

/-- A call about the chain adds to the record of the node and leaves that of the index. -/
theorem run_divided_recorded_of_chain {call : Call} (h : call.OfChain) (asked other : List Query) :
    ((call.lookup network).runWith (node.dividedRecorded index)).run (asked, other) =
      (fun r => (r.1, (r.2, other))) <$> (call.lookup network).record node asked := by
  rw [Source.dividedRecorded, run_divided_of_chain _ _ h]
  refine Dialogue.run_zoom ?_ ?_ ?_ node.recorded _ (asked, other) <;> intros <;> rfl

/-- A call about scripts adds to the record of the index and leaves that of the node. -/
theorem run_divided_recorded_of_scripts {call : Call} (h : call.OfScripts)
    (asked other : List Query) :
    ((call.lookup network).runWith (node.dividedRecorded index)).run (other, asked) =
      (fun r => (r.1, (other, r.2))) <$> (call.lookup network).record index asked := by
  rw [Source.dividedRecorded, run_divided_of_scripts _ _ h]
  refine Dialogue.run_zoom ?_ ?_ ?_ index.recorded _ (other, asked) <;> intros <;> rfl

/-- A session is made call by call, each with the memory that those before it left. -/
theorem run_session_by_calls (source : Source m) (calls : List Call) :
    (session network calls).run source.answer =
      calls.mapM fun call => (fun result => (⟨call, result⟩ : Call.Outcome)) <$>
        (call.lookup network).runWith source := by
  have hcall (call : Call) :
      (do let result ← (call.lookup network).run; return (⟨call, result⟩ : Call.Outcome) :
        Dialogue Query.Reply Call.Outcome).run source.answer =
      (fun result => (⟨call, result⟩ : Call.Outcome)) <$> (call.lookup network).runWith source := by
    rw [Dialogue.bind_eq, Dialogue.run_bind, map_eq_pure_bind]
    rfl
  rw [session, Dialogue.run_mapM]
  simp only [hcall]

end Work

section Memory

variable {σ : Type} {node index : Source (StateM σ)} {memory after : σ}

/-- A node reports transactions one after the other, each with the memory that the one before it
left. -/
inductive ReportsEach (network : Network) (node : Source (StateM σ)) :
    σ → List Txid → List TransactionReport → σ → Prop
  | nil (memory : σ) : ReportsEach network node memory [] [] memory
  | cons {memory between after : σ} {id : Txid} {ids : List Txid} {r : TransactionReport}
      {rs : List TransactionReport}
      (first : Id.run (((transaction network id).runWith node).run memory) = (.ok r, between))
      (rest : ReportsEach network node between ids rs after) :
    ReportsEach network node memory (id :: ids) (r :: rs) after

/-- A list of reports comes about when each report does, with the memory that the one before it
left. -/
theorem reports_each_iff {ids : List Txid} {rs : List TransactionReport} :
    Id.run (((ids.mapM (transaction network)).runWith node).run memory) = (.ok rs, after) ↔
      ReportsEach network node memory ids rs after := by
  -- the memory is what one report hands to the next
  induction ids generalizing memory rs with
  | nil =>
    constructor
    · intro h
      cases h
      exact .nil _
    · intro h
      cases h
      rfl
  | cons id ids ih =>
    rw [List.mapM_cons, run_bind_eq_ok]
    constructor
    · intro h
      obtain ⟨r, between, hfirst, h⟩ := h
      obtain ⟨others, last, hrest, h⟩ := (run_bind_eq_ok node).mp h
      cases h
      exact .cons hfirst (ih.mp hrest)
    · intro h
      cases h with
      | cons hfirst hrest =>
        exact ⟨_, _, hfirst, (run_bind_eq_ok node).mpr ⟨_, _, ih.mpr hrest, rfl⟩⟩

/-- The transactions of an address are had when the index gives their ids and the node reports
each. -/
theorem transactions_apart_eq_ok {address : String} {rs : List TransactionReport} :
    Id.run ((callApart network node index (.transactions address)).run memory) = (.ok rs, after) ↔
      ∃ ids between, Id.run (((history network address).runWith index).run memory) =
        (.ok ids, between) ∧
        ReportsEach network node between ids rs after := by
  simp only [← reports_each_iff]
  rw [callApart]
  apply run_and_then_eq_ok
  intro failure
  rfl

/-- A node and an index that divide the work do it as if each were alone. What they remember may be
in one place. -/
structure WorkApart (network : Network) (node index : Source (StateM σ)) : Prop where
  session_eq : ∀ calls, (session network calls).run (Source.divided node index).answer =
    calls.mapM fun call => (fun result => (⟨call, result⟩ : Call.Outcome)) <$>
      callApart network node index call
  index_unasked : ∀ call : Call, call.OfChain → ∀ asked other : List Query,
    ((call.lookup network).runWith (node.dividedRecorded index)).run (asked, other) =
      (fun r => (r.1, (r.2, other))) <$> (call.lookup network).record node asked
  node_unasked : ∀ call : Call, call.OfScripts → ∀ asked other : List Query,
    ((call.lookup network).runWith (node.dividedRecorded index)).run (other, asked) =
      (fun r => (r.1, (other, r.2))) <$> (call.lookup network).record index asked
  /-- A history is reported just if the index has it and the node reports each of its transactions,
  in its order. -/
  reports_iff : ∀ address memory rs after,
    Id.run (((transactions network address).runWith (Source.divided node index)).run memory) =
        (.ok rs, after) ↔
      ∃ ids between, Id.run (((history network address).runWith index).run memory) =
          (.ok ids, between) ∧
        ReportsEach network node between ids rs after

/-- A divided source serves every session as the node and the index would, each asked only for its
own part. The transactions of an address are had when the index gives their ids and the node reports
each of them, one after the other. -/
theorem work_divides (network : Network) (node index : Source (StateM σ)) :
    WorkApart network node index where
  session_eq calls := by
    rw [run_session_by_calls]
    simp only [run_divided]
  index_unasked _ h asked other := run_divided_recorded_of_chain node index h asked other
  node_unasked _ h asked other := run_divided_recorded_of_scripts node index h asked other
  reports_iff address memory rs after := by
    have happart : (transactions network address).runWith (Source.divided node index) =
        callApart network node index (.transactions address) :=
          run_divided node index (.transactions address)
    rw [happart]
    exact transactions_apart_eq_ok

end Memory

end Explorer
end ChainLens
