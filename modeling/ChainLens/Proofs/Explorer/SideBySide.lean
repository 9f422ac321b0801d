import ChainLens.Explorer.Plans
import ChainLens.Proofs.Plan.AnyOrder

/-!
The calls of the explorer as they are carried out. Taken in order each plan asks what its lookup
asks and comes to the same; in any other order the success is the same, and a call that reports
no list of transactions or blocks fails the same way too.
-/

namespace ChainLens

namespace Plan

variable {α β : Type}

/-- Read in order, a plan that goes on is a lookup that goes on. -/
theorem in_order_bind (plan : Plan α) (f : α → Plan β) :
    (plan >>= f).inOrder = plan.inOrder >>= fun a => (f a).inOrder := by
  change (plan.bind f).inOrder = _
  induction plan with
  | done result => cases result <;> rfl
  | ask q next ih =>
    apply ExceptT.ext
    simp only [bind, inOrder, ih]
    rfl
  | join left right next _ _ ih => simp only [bind, inOrder, bind_assoc, ih]
  | tryJoin left right next _ _ ih => simp only [bind, inOrder, bind_assoc, ih]

theorem in_order_pure (a : α) : (pure a : Plan α).inOrder = pure a := rfl

theorem in_order_query (q : Query) : (query q).inOrder = Lookup.ask q := rfl

theorem in_order_of_lookup (lookup : Lookup α) : (ofLookup lookup).inOrder = lookup := by
  have hdialogue (d : Dialogue Query.Reply (Except Failure α)) :
      (ofDialogue d).inOrder = ExceptT.mk d := by
    induction d with
    | done result => rfl
    | ask q next ih => simp only [ofDialogue, inOrder, ih]; rfl
  exact hdialogue lookup.run

/-- All parts at once are, in order, one after the other. -/
theorem in_order_try_join_all {ι : Type} (part : ι → Plan α) (l : List ι) :
    (tryJoinAll (l.map part)).inOrder = l.mapM fun i => (part i).inOrder := by
  induction l with
  | nil => rfl
  | cons i l ih =>
    rw [List.map_cons, tryJoinAll, inOrder, ih, List.mapM_cons]
    rfl

/-- What follows an awaited part that passes its failure on follows its success. -/
theorem lift_run_bind (x : Lookup α) (f : Except Failure α → Lookup β)
    (hf : ∀ failure, f (.error failure) = throw failure) :
    (ExceptT.lift x.run >>= f : Lookup β) = x >>= fun a => f (.ok a) := by
  apply ExceptT.ext
  rw [ExceptT.run_bind_lift, ExceptT.run_bind]
  congr
  funext result
  cases result with
  | ok a => rfl
  | error failure => rw [hf]; rfl

theorem firm_of_lookup (lookup : Lookup α) : (ofLookup lookup).Firm := by
  have hdialogue (d : Dialogue Query.Reply (Except Failure α)) : (ofDialogue d).Firm := by
    induction d with
    | done result => exact .done result
    | ask q next ih => exact .ask ih
  exact hdialogue lookup.run

theorem firm_pure (a : α) : (pure a : Plan α).Firm := .done _

theorem firm_query (q : Query) : (query q).Firm := .ask fun _ => .done _

/-- Nothing is dropped by going on after a plan that drops nothing. -/
theorem Firm.bind {plan : Plan α} (h : plan.Firm) {f : α → Plan β} (hf : ∀ a, (f a).Firm) :
    (plan >>= f).Firm := by
  change (plan.bind f).Firm
  induction h with
  | done result =>
    cases result with
    | ok a => exact hf a
    | error failure => exact .done _
  | ask _ ih => exact .ask fun reply => ih reply hf
  | join hleft hright _ _ _ ih => exact .join hleft hright fun a b => ih a b hf

theorem Steady.bind {plan : Plan α} (h : plan.Steady) {f : α → Plan β} (hf : ∀ a, (f a).Steady) :
    (plan >>= f).Steady := by
  change (plan.bind f).Steady
  induction h with
  | done result =>
    cases result with
    | ok a => exact hf a
    | error failure => exact .done _
  | ask _ ih => exact .ask fun reply => ih reply hf
  | join hleft hright _ ih => exact .join hleft hright fun a b => ih a b hf
  | tryJoin hleft hright _ _ _ ih => exact .tryJoin hleft hright fun a b => ih a b hf

/-- What is dropped of parts that are all wanted was not awaited whatever it came to. -/
theorem steady_try_join_all {ι : Type} {part : ι → Plan α} (h : ∀ i, (part i).Firm) (l : List ι) :
    (tryJoinAll (l.map part)).Steady := by
  induction l with
  | nil => exact .done _
  | cons i l ih => exact .tryJoin (h i).steady ih fun _ _ => .done _

end Plan

namespace Explorer

open Plan

/-- Looking up what inputs spend from never fails. -/
theorem exists_look_up_spent_eq (ids : List Txid) :
    ∃ d : Dialogue Query.Reply Spent, lookUpSpent ids = ExceptT.lift d := by
  induction ids with
  | nil => exact ⟨pure [], rfl⟩
  | cons id ids ih =>
    obtain ⟨d, hd⟩ := ih
    let first : Dialogue Query.Reply (Query.Reply (.transactionBytes id)) := Dialogue.send _
    refine ⟨first >>= fun reply => d >>= fun others =>
      pure ((id, spentRecord? reply) :: others), ?_⟩
    rw [lookUpSpent, hd]
    apply ExceptT.ext
    simp only [Lookup.attempt, first, ExceptT.run_bind_lift, ExceptT.run_lift, map_bind,
      ExceptT.run_pure, map_pure]

/-- Transactions looked up at once are, in order, those looked up in turn. -/
theorem in_order_look_up_spent (ids : List Txid) :
    (Plans.lookUpSpent ids).inOrder = lookUpSpent ids := by
  induction ids with
  | nil => rfl
  | cons id ids ih =>
    rw [Plans.lookUpSpent, inOrder, lookUpSpent]
    change Lookup.attempt _ >>= _ = _
    congr
    funext reply
    rw [ih]
    exact lift_run_bind (lookUpSpent ids)
      (fun others => (done (others.map ((id, spentRecord? reply) :: ·))).inOrder) fun _ => rfl

theorem in_order_report_inputs (network : Network) (inputs : List TxInput) :
    (Plans.reportInputs network inputs).inOrder = reportInputs network inputs := by
  rw [Plans.reportInputs, in_order_bind, in_order_look_up_spent]
  rfl

theorem exists_report_inputs_eq (network : Network) (inputs : List TxInput) :
    ∃ d : Dialogue Query.Reply (List InputReport),
      reportInputs network inputs = ExceptT.lift d := by
  obtain ⟨d, hd⟩ := exists_look_up_spent_eq (spentTxids inputs)
  refine ⟨(fun spent => inputs.map (reportInput network spent)) <$> d, ?_⟩
  rw [reportInputs, hd]
  apply ExceptT.ext
  simp only [ExceptT.run_bind_lift, ExceptT.run_lift, ExceptT.run_pure, Functor.map_map]
  exact bind_pure_comp ..

/-- A report waits for inputs and height together, and reads in order as the report does. -/
theorem in_order_report (network : Network) (record : TxRecord) (location : Location) :
    (Plans.report network record location).inOrder = report network record location := by
  -- the inputs never fail, so the height is asked for in either reading
  obtain ⟨d, hd⟩ := exists_report_inputs_eq network record.inputs
  have hinputs (f : Except Failure (List InputReport) → Lookup TransactionReport) :
      (ExceptT.lift (reportInputs network record.inputs).run >>= f : Lookup TransactionReport) =
        reportInputs network record.inputs >>= fun inputs => f (.ok inputs) := by
    rw [hd]
    apply ExceptT.ext
    simp only [ExceptT.run_bind_lift, ExceptT.run_lift, bind_map_left]
  rw [Plans.report, inOrder, in_order_report_inputs, hinputs, report]
  simp only [in_order_of_lookup]
  congr
  funext inputs
  exact lift_run_bind (confirmedHeight location) _ fun _ => rfl

theorem in_order_transaction (network : Network) (id : Txid) :
    (Plans.transaction network id).inOrder = transaction network id := by
  rw [Plans.transaction, in_order_bind, in_order_query, transaction]
  congr
  funext served
  cases hread : TxRecord.read served.1 with
  | ok record => simp only [hread, in_order_report]
  | error flaw => simp only [hread]; rfl

theorem in_order_load (hash : BlockHash) : (Plans.load hash).inOrder = load hash := by
  rw [Plans.load, inOrder, load]
  change Lookup.attempt _ >>= _ = _
  congr
  funext bytes
  simp only [in_order_of_lookup]
  exact lift_run_bind (Lookup.ask (.blockFacts hash)) _ fun _ => rfl

theorem in_order_block_by_hash (hash : BlockHash) :
    (Plans.blockByHash hash).inOrder = blockByHash hash := by
  rw [Plans.blockByHash, in_order_bind, in_order_load]
  rfl

theorem in_order_listed (network : Network) (location : Location) (id : Txid) :
    (Plans.listedTransaction network location id).inOrder =
      listedTransaction network location id := by
  simp only [Plans.listedTransaction, in_order_bind, in_order_of_lookup, in_order_report]
  rfl

/-- The transactions of a block are reported at once, or in order one after the other. -/
theorem in_order_full_block (network : Network) (ref : BlockRef) :
    (Plans.fullBlock network ref).inOrder = fullBlock network ref := by
  simp only [Plans.fullBlock, in_order_bind, in_order_of_lookup, in_order_load, fullBlock]
  congr
  funext hash
  congr
  funext loaded
  cases loaded.transactions with
  | some ts => simp only [in_order_bind, in_order_try_join_all, in_order_report, in_order_pure]
  | none => simp only [in_order_bind, in_order_try_join_all, in_order_listed, in_order_pure]

theorem in_order_summary_at (height : Nat) :
    (Plans.summaryAt height).inOrder = summaryAt height := by
  simp only [Plans.summaryAt, in_order_bind, in_order_block_by_hash]
  rfl

theorem in_order_summaries (start : Height) (limit : UInt32) :
    (Plans.summaries start limit).inOrder = summaries start limit := by
  by_cases hlimit : limit = 0
  · rw [Plans.summaries, summaries, if_pos hlimit, if_pos hlimit]
    rfl
  · rw [Plans.summaries, summaries, if_neg hlimit, if_neg hlimit, in_order_bind]
    change _ = Lookup.ask .tip >>= _
    congr
    funext tip
    by_cases hstart : tip < start
    · rw [if_pos hstart, if_pos hstart]
      rfl
    · simp only [if_neg hstart, in_order_try_join_all, in_order_summary_at]

/-- A call asks in order what its lookup asks, and comes to the same. -/
theorem in_order_plan (network : Network) (call : Call) :
    (call.plan network).inOrder = call.lookup network := by
  cases call with
  | transaction id => exact in_order_transaction network id
  | block ref =>
    simp only [Call.plan, Plans.block, in_order_bind, in_order_of_lookup, in_order_block_by_hash]
    rfl
  | fullBlock ref => exact in_order_full_block network ref
  | summaries start limit => exact in_order_summaries start limit
  | transactions address =>
    simp only [Call.plan, Plans.transactions, in_order_bind, in_order_of_lookup,
      in_order_try_join_all, in_order_transaction]
    rfl
  | _ => exact in_order_of_lookup _

theorem firm_look_up_spent (ids : List Txid) : (Plans.lookUpSpent ids).Firm := by
  induction ids with
  | nil => exact .done _
  | cons id ids ih => exact .join (firm_query _) ih fun _ _ => .done _

/-- A report waits for all that it asks, so nothing of it is dropped. -/
theorem firm_report (network : Network) (record : TxRecord) (location : Location) :
    (Plans.report network record location).Firm := by
  have hinputs : (Plans.reportInputs network record.inputs).Firm :=
    (firm_look_up_spent _).bind fun _ => firm_pure _
  exact .join hinputs (firm_of_lookup _) fun _ _ => firm_of_lookup _

theorem firm_transaction (network : Network) (id : Txid) : (Plans.transaction network id).Firm := by
  refine (firm_query (.transaction id)).bind fun served => ?_
  cases hread : TxRecord.read served.1 with
  | ok record => simp only [hread, firm_report]
  | error flaw => simp only [hread, Firm.done]

theorem firm_load (hash : BlockHash) : (Plans.load hash).Firm :=
  .join (firm_query _) (firm_query _) fun _ _ => firm_of_lookup _

theorem firm_block_by_hash (hash : BlockHash) : (Plans.blockByHash hash).Firm :=
  (firm_load hash).bind fun _ => firm_pure _

theorem firm_listed (network : Network) (location : Location) (id : Txid) :
    (Plans.listedTransaction network location id).Firm :=
  (firm_query _).bind fun _ => (firm_of_lookup _).bind fun _ => firm_report network _ location

theorem firm_summary_at (height : Nat) : (Plans.summaryAt height).Firm :=
  (firm_query _).bind fun hash => (firm_block_by_hash hash).bind fun _ => firm_pure _

/-- Calls whose answer is a list of reports, each fetched beside the others. -/
def Call.lists : Call → Bool
  | .fullBlock _ | .summaries _ _ | .transactions _ => true
  | _ => false

/-- Nothing is dropped by a call that lists no reports. -/
theorem firm_plan (network : Network) {call : Call} (h : call.lists = false) :
    (call.plan network).Firm := by
  cases call with
  | transaction id => exact firm_transaction network id
  | block ref => exact (firm_of_lookup _).bind firm_block_by_hash
  | fullBlock ref => cases h
  | summaries start limit => cases h
  | transactions address => cases h
  | _ => exact firm_of_lookup _

theorem steady_full_block (network : Network) (ref : BlockRef) :
    (Plans.fullBlock network ref).Steady := by
  refine (firm_of_lookup _).steady.bind fun hash => (firm_load hash).steady.bind fun loaded => ?_
  cases loaded.transactions with
  | some ts =>
    exact (steady_try_join_all (fun _ => firm_report network _ _) ts).bind fun _ => .done _
  | none => exact (steady_try_join_all (firm_listed network _) _).bind fun _ => .done _

theorem steady_summaries (start : Height) (limit : UInt32) :
    (Plans.summaries start limit).Steady := by
  rw [Plans.summaries]
  split
  · exact .done _
  · refine (firm_query .tip).steady.bind fun tip => ?_
    split
    · exact .done _
    · exact steady_try_join_all firm_summary_at _

theorem steady_transactions (network : Network) (address : String) :
    (Plans.transactions network address).Steady :=
  (firm_of_lookup _).steady.bind fun ids => steady_try_join_all (firm_transaction network) ids

/-- What a call drops is never part of something that is awaited whatever it comes to. -/
theorem steady_plan (network : Network) (call : Call) : (call.plan network).Steady := by
  cases call with
  | fullBlock ref => exact steady_full_block network ref
  | summaries start limit => exact steady_summaries start limit
  | transactions address => exact steady_transactions network address
  | _ => exact (firm_plan network rfl).steady

/-- A result that a call may return without a turnstile, the questions that are open together
answered in some order. Its success is that of the lookup, and unless reports are listed so is
its failure. -/
structure Returns (network : Network) (source : Source Id) (call : Call)
    (result : Except Failure call.Result) : Prop where
  in_some_order : ∃ events, (call.plan network).after? source events = some (.done result)
  success : result.toOption = ((call.lookup network).outcome source).toOption
  exact : call.lists = false → result = (call.lookup network).outcome source

/-- However the questions of a call are answered in turn, it returns the success of its lookup or
fails as it may. -/
theorem returns_of_after {network : Network} {source : Source Id} {call : Call}
    {result : Except Failure call.Result} {events : List Plan.Event}
    (h : (call.plan network).after? source events = some (.done result)) :
    Returns network source call result := by
  have houtcome : (call.plan network).outcome source = (call.lookup network).outcome source :=
    congrArg (Lookup.outcome source) (in_order_plan network call)
  refine ⟨⟨events, h⟩, ?_, fun hlists => ?_⟩
  · rw [← houtcome]
    exact ((steady_plan network call).after h).2.1
  · rw [← houtcome]
    exact ((firm_plan network hlists).after h).2

/-- What the lookup comes to is what the call returns when every answer is at hand. -/
theorem returns_outcome (network : Network) (source : Source Id) (call : Call) :
    Returns network source call ((call.lookup network).outcome source) := by
  have houtcome : (call.plan network).outcome source = (call.lookup network).outcome source :=
    congrArg (Lookup.outcome source) (in_order_plan network call)
  obtain ⟨events, h⟩ : ∃ events, (call.plan network).after? source events =
      some (.done ((call.plan network).outcome source)) := exists_after_outcome _
  exact returns_of_after (houtcome ▸ h)

end Explorer
end ChainLens
