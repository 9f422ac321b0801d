import ChainLens.Proofs.Explorer.PassedOver
import ChainLens.Proofs.Explorer.Questions
import ChainLens.Proofs.Explorer.Resolution
import ChainLens.Proofs.Source.Candid
import ChainLens.Proofs.Source.LedgerServer
import ChainLens.Proofs.Turnstile.Queue
import ChainLens.Proofs.Web.Siblings
import Mathlib.Data.Finset.Card

/-!
What the report of a transaction takes. Once its bytes have been read, the questions that follow
depend on nothing but them and its location: each transaction that its inputs spend from is asked
for once, and a height only where a block is given without one.
-/

namespace ChainLens.Explorer

open Lookup Web

variable {network : Network} {id : Txid} {record : TxRecord} {location : Location}

def previousTxids (inputs : List TxInput) : Finset Txid :=
  (inputs.map TxInput.previousTxid).toFinset.erase Hash256.zero

theorem mem_previous_txids {inputs : List TxInput} {i : Txid} :
    i ∈ previousTxids inputs ↔ i ≠ Hash256.zero ∧ ∃ input ∈ inputs, input.previousTxid = i := by
  simp [previousTxids]

theorem mem_spent_txids_iff {inputs : List TxInput} {i : Txid} :
    i ∈ spentTxids inputs ↔ i ∈ previousTxids inputs := by
  rw [mem_spent_txids, mem_previous_txids]
  constructor
  · rintro ⟨input, hmem, hspends, rfl⟩
    refine ⟨?_, input, hmem, rfl⟩
    intro hzero
    rw [is_coinbase_iff.mpr hzero] at hspends
    cases hspends
  · rintro ⟨hne, input, hmem, rfl⟩
    refine ⟨input, hmem, ?_, rfl⟩
    rw [← Bool.not_eq_true]
    exact fun hcoinbase => hne (is_coinbase_iff.mp hcoinbase)

theorem nodup_spent_txids (inputs : List TxInput) : (spentTxids inputs).Nodup := nodup_erase_dups _

theorem length_spent_txids (inputs : List TxInput) :
    (spentTxids inputs).length = (previousTxids inputs).card := by
  have hsame : (spentTxids inputs).toFinset = previousTxids inputs := by
    ext i
    rw [List.mem_toFinset, mem_spent_txids_iff]
  rw [← hsame, List.toFinset_card_of_nodup (nodup_spent_txids inputs)]

/-- Behind its first question a report of a transaction is that of what was served. -/
theorem run_transaction (network : Network) (id : Txid) :
    ∃ next : Query.Reply (.transaction id) → _,
    (transaction network id).run = .ask (.transaction id) next ∧
      ∀ bytes record location, TxRecord.read bytes = .ok record →
        next (.ok (bytes, location)) = (report network record location).run := by
  refine ⟨_, rfl, ?_⟩
  intro bytes record location hread
  simp only [Dialogue.bind, ExceptT.bindCont, hread]
  rfl

section Questions

variable {σ : Type}

def questions (network : Network) (id : Txid) (source : Source (StateM σ)) (memory : σ) :
    List Query :=
  ((transaction network id).lines source memory).map Sigma.fst

/-- Asked for the transaction with an id, a source answers with bytes and a location. -/
def Supplies (source : Source (StateM σ)) (memory : σ) (id : Txid) (bytes : Bytes)
    (location : Location) : Prop :=
  (Id.run ((source.answer (.transaction id)).run memory)).1 = .ok (bytes, location)

variable {source : Source (StateM σ)} {memory : σ} {bytes : Bytes}

/-- A report asks for the transaction, for those that it spends from, and for the height of a block
that came without one. -/
theorem questions_eq (hsupplies : Supplies source memory id bytes location)
    (hread : TxRecord.read bytes = .ok record) :
    questions network id source memory =
      .transaction id ::
        ((spentTxids record.inputs).map .transactionBytes ++ heightQuestions location) := by
  obtain ⟨next, hrun, hnext⟩ := run_transaction network id
  have hreport := agenda_report network record location
  rw [Agenda, ← hnext bytes record location hread, ← hsupplies] at hreport
  rw [questions, lines, hrun]
  exact congrArg (.transaction id :: ·) (hreport.map_lines source _)

end Questions

def errandCount (inputs : List TxInput) (location : Location) : Nat :=
  1 + (previousTxids inputs).card + if location.block.isSome ∧ location.height = none then 1 else 0

/-- The questions are those that have to be asked, each of them once. -/
structure Errands (id : Txid) (inputs : List TxInput) (location : Location) (asked : List Query) :
    Prop where
  once : asked.Nodup
  mem_iff : ∀ q, q ∈ asked ↔ q = .transaction id ∨
      (∃ i ∈ previousTxids inputs, q = .transactionBytes i) ∨
    ∃ hash, location = ⟨some hash, none⟩ ∧ q = .heightOf hash
  length_eq : asked.length = errandCount inputs location

/-- These questions are those that have to be asked, and each stands there once. -/
theorem errands_of_agenda (id : Txid) (inputs : List TxInput) (location : Location) :
    Errands id inputs location
      (.transaction id ::
        ((spentTxids inputs).map .transactionBytes ++ heightQuestions location)) := by
  have hinjective : Function.Injective Query.transactionBytes := fun i j h => by injection h
  have hmem (q : Query) : q ∈ (spentTxids inputs).map .transactionBytes ↔
      ∃ i ∈ previousTxids inputs, q = .transactionBytes i := by
    simp only [List.mem_map, mem_spent_txids_iff, eq_comm]
  have hrest (q : Query) : q ∈ (spentTxids inputs).map .transactionBytes ++
      heightQuestions location ↔
      (∃ i ∈ previousTxids inputs, q = .transactionBytes i) ∨
        ∃ hash, location = ⟨some hash, none⟩ ∧ q = .heightOf hash := by
    rw [List.mem_append, hmem, mem_height_questions]
  -- questions of different kinds are different questions
  have hapart : ∀ q ∈ (spentTxids inputs).map Query.transactionBytes,
      ∀ q' ∈ heightQuestions location, q ≠ q' := by
    intro q hq q' hq'
    obtain ⟨i, -, rfl⟩ := (hmem q).mp hq
    obtain ⟨hash, -, rfl⟩ := mem_height_questions.mp hq'
    intro hsame
    cases hsame
  refine ⟨List.nodup_cons.mpr ⟨?_, ?_⟩, ?_, ?_⟩
  · intro hroot
    obtain ⟨i, -, hsame⟩ | ⟨hash, -, hsame⟩ := (hrest _).mp hroot
    · cases hsame
    · cases hsame
  · exact List.nodup_append.mpr ⟨(nodup_spent_txids inputs).map hinjective,
      nodup_height_questions, hapart⟩
  · intro q
    rw [List.mem_cons, hrest]
  · rw [List.length_cons, List.length_append, List.length_map, length_spent_txids,
      length_height_questions, errandCount]
    omega

/-- A turnstile counts the questions of a report, whether they come one after the other or all at
once. -/
structure Counted {σ : Type} (network : Network) (id : Txid) (source : Source (StateM σ))
    (memory : σ) (n : Nat) :
    Prop where
  in_turn : ∀ t : Turnstile Nat, t.Idle →
    (Id.run ((((transaction network id).runWith source.limited).run t).run memory)).1.2.acquired =
      t.acquired + n
  /-- The questions come and go in any order, but none leaves before it has been answered. -/
  at_once : ∀ (start : Turnstile Query) (moves : List (Turnstile.Move Query)), start.Sound →
      start.waiting = [] →
    (Turnstile.arrivals moves).Perm (questions network id source memory) →
      (∀ q, ¬ Turnstile.Withdrew start moves q) → (start.run moves).waiting = [] →
        (start.run moves).acquired = start.acquired + n

/-- A turnstile counts each question once, whether they come in turn or at once. -/
theorem counted_questions {σ : Type} (network : Network) (id : Txid) (source : Source (StateM σ))
    (memory : σ) :
    Counted network id source memory (questions network id source memory).length where
  in_turn t h := by
    rw [questions, List.length_map]
    exact (transaction network id).run.acquired_run_limited h source memory
  at_once start moves h hbefore harrivals hstay hafter := by
    have hcount := Turnstile.acquired_run h hstay
    rw [hbefore, hafter, harrivals.length_eq] at hcount
    exact hcount

section Index

variable {ρ : Type} {index : AddressIndex} {bytes : Bytes}

theorem transaction_address (index : AddressIndex) (i : Txid) : index.base.join s!"tx/{i.display}" =
    String.ofList (index.base.text.toList ++ ['/', 't', 'x', '/'] ++ i.display.toList) := by
  apply String.toList_injective
  simp [BaseUrl.join, toString]

/-- Where one transaction can be requested, all can. -/
theorem exists_heading_of_transaction {i : Txid} {found : String × Option String}
    (h : heading (index.base.join s!"tx/{i.display}") none = .ok found) (j : Txid) :
    ∃ found', heading (index.base.join s!"tx/{j.display}") none = .ok found' := by
  rw [transaction_address] at h ⊢
  have hlength : i.display.toList.length = j.display.toList.length := by
    rw [length_display, length_display]
  have hclose : ['x', '/'] <:+ index.base.text.toList ++ ['/', 't', 'x', '/'] :=
    ⟨index.base.text.toList ++ ['/', 't'], by simp⟩
  exact exists_heading_of_sibling (alphanum_display i) (alphanum_display j) hlength hclose h

theorem leaves_sent_fetch (wire : Wire (StateM ρ)) {base : BaseUrl} {path : String}
    {found : String × Option String}
    (h : heading (base.join path) none = .ok found) :
    Leaves (fetch wire.noted base path) fun _ es => ∃ e, es = [e] ∧
    e.IsFetchOf (base.join path) := by
  simp only [fetch, h]
  refine (Leaves.deliver wire _).bind_pure ?_
  rintro delivery _ rfl
  exact ⟨_, rfl, found.1, found.2, h, rfl⟩

def FetchesEach (index : AddressIndex) (ids : List Txid) (es : List Exchange) : Prop :=
  List.Forall₂ (fun (i : Txid) e => e.IsFetchOf (index.base.join s!"tx/{i.display}")) ids es

variable {α : Type} {wire : Wire (StateM ρ)} {found : String × Option String}

theorem leaves_fetched_entry (wire : Wire (StateM ρ))
    (hheading : heading (index.base.join s!"tx/{id.display}") none = .ok found)
    (i : Txid) (f : Except Failure AddressIndex.Entry → α) :
    Leaves (fetchJson wire.noted index.base s!"tx/{i.display}" AddressIndex.entryShape >>=
      fun reply => pure (f reply))
      fun _ es => ∃ e, es = [e] ∧ e.IsFetchOf (index.base.join s!"tx/{i.display}") := by
  obtain ⟨found', hfound'⟩ := exists_heading_of_transaction hheading i
  exact ((leaves_sent_fetch wire hfound').bind_pure fun _ _ h => h).bind_pure fun _ _ h => h

/-- For each transaction that is asked for, an index makes one request. -/
theorem leaves_fetched_each
    (hheading : heading (index.base.join s!"tx/{id.display}") none = .ok found)
    {d : Dialogue Query.Reply α} {ids : List Txid} (h : d.Agenda (ids.map .transactionBytes)) :
    Leaves (d.run (index.source wire.noted).answer) fun _ es => FetchesEach index ids es := by
  let post (q : Query) (e : Exchange) : Prop :=
    ∀ i, q = .transactionBytes i → e.IsFetchOf (index.base.join s!"tx/{i.display}")
  refine (h.leaves post ?_).mono ?_
  · intro q hq
    obtain ⟨i, -, rfl⟩ := List.mem_map.mp hq
    have hone := leaves_fetched_entry wire hheading i fun reply =>
      reply >>= fun entry => AddressIndex.readHex "hex" entry.hex
    refine hone.mono ?_
    rintro reply es ⟨e, rfl, he⟩
    refine ⟨e, rfl, fun j hj => ?_⟩
    injection hj with hj
    rw [← hj]
    exact he
  · intro result es hes
    exact (List.forall₂_map_left_iff.mp hes).imp fun i e he => he i rfl

/-- An index with which a report takes no further questions gets one request for every
transaction. -/
theorem index_fetches_each (network : Network) {log : List Exchange} {server : ρ}
    (hsupplies : (Id.run
      ((((index.source wire.noted).answer (.transaction id)).run log).run server)).1.1 =
      .ok (bytes, location))
    (hread : TxRecord.read bytes = .ok record) (hheight : heightQuestions location = []) :
    ∃ es, (Id.run ((((transaction network id).runWith (index.source wire.noted)).run log).run
      server)).1.2 = log ++ es ∧
      FetchesEach index (id :: spentTxids record.inputs) es := by
  cases hheading : heading (index.base.join s!"tx/{id.display}") none with
  | error cause =>
    -- nothing would have been served
    have hfailed : (Id.run
        ((((index.source wire.noted).answer (.transaction id)).run log).run server)).1.1 =
        undelivered cause := by
      simp only [AddressIndex.source, AddressIndex.answer, fetchJson, fetch, hheading]
      rfl
    rw [hfailed] at hsupplies
    cases hsupplies
  | ok found =>
    obtain ⟨reply, _, server₁, hfetched, e, rfl, he⟩ := leaves_fetched_entry wire hheading id
      (fun reply => reply >>= fun entry => (AddressIndex.readHex "hex" entry.hex).map fun bytes =>
        (bytes, entry.location))
      log server
    have hanswer : Id.run
        ((((index.source wire.noted).answer (.transaction id)).run log).run server) =
        ((reply, log ++ [e]), server₁) := hfetched
    rw [hanswer] at hsupplies
    obtain rfl : reply = .ok (bytes, location) := hsupplies
    -- from here on the agenda of the report says what is asked
    obtain ⟨next, hrun, hnext⟩ := run_transaction network id
    have hreport := agenda_report network record location
    rw [hheight, List.append_nil, Agenda, ← hnext bytes record location hread] at hreport
    obtain ⟨result, es, server₂, hrest, hes⟩ :=
      leaves_fetched_each hheading hreport (log ++ [e]) server₁
    refine ⟨e :: es, ?_, .cons he hes⟩
    rw [runWith, hrun, Dialogue.run, StateT.run_bind, StateT.run_bind, Id.run_bind, hanswer, hrest]
    exact List.append_assoc ..

/-- The transaction and then each one that its inputs spend from are requested, and nothing else. -/
def RequestedOnce (index : AddressIndex) (id : Txid) (inputs : List TxInput) (es : List Exchange) :
    Prop :=
  ∃ ids : List Txid, ids.Nodup ∧ (∀ i, i ∈ ids ↔ i ∈ previousTxids inputs) ∧
    FetchesEach index (id :: ids) es

end Index

/-- Once the bytes of a transaction have been read, everything that its report takes is known,
whatever else the source may answer: which questions are asked, how often a turnstile is passed, and
which requests an index gets. -/
theorem lookups_are_exact (network : Network) (id : Txid) {bytes : Bytes} {record : TxRecord}
    (hread : TxRecord.read bytes = .ok record) :
    (∀ {σ : Type} (source : Source (StateM σ)) (memory : σ) (location : Location),
      Supplies source memory id bytes location →
        Errands id record.inputs location (questions network id source memory) ∧
          Counted network id source memory (errandCount record.inputs location)) ∧
      ∀ {ρ : Type} (wire : Wire (StateM ρ)) (index : AddressIndex) (log : List Exchange)
      (server : ρ) (location : Location),
        (Id.run ((((index.source wire.noted).answer (.transaction id)).run log).run server)).1.1 =
          .ok (bytes, location) →
          location.height.isSome = true →
            ∃ es, (Id.run ((((transaction network id).runWith (index.source wire.noted)).run
              log).run server)).1.2 =
              log ++ es ∧ RequestedOnce index id record.inputs es := by
  constructor
  · intro σ source memory location hsupplies
    have herrands : Errands id record.inputs location (questions network id source memory) := by
      rw [questions_eq hsupplies hread]
      exact errands_of_agenda id record.inputs location
    have hcounted := counted_questions network id source memory
    rw [herrands.length_eq] at hcounted
    exact ⟨herrands, hcounted⟩
  · intro ρ wire index log server location hsupplies hgiven
    have hheight : heightQuestions location = [] := by
      obtain ⟨block, height⟩ := location
      obtain ⟨height, rfl⟩ := Option.isSome_iff_exists.mp hgiven
      rfl
    obtain ⟨es, hes, hfetches⟩ := index_fetches_each network hsupplies hread hheight
    exact ⟨es, hes, _, nodup_spent_txids record.inputs, fun i => mem_spent_txids_iff, hfetches⟩

def neighborId : Txid := ⟨List.replicate 32 8, rfl⟩

/-- It spends twice from one stranger and once from another, and its last input mints. -/
def patchwork : Transaction where
  version := 2
  inputs := [⟨strangerId, 0, [], 0xffffffff, []⟩, ⟨neighborId, 0, [], 0xffffffff, []⟩,
    ⟨strangerId, 1, [], 0xffffffff, []⟩, ⟨Hash256.zero, 0, [], 0xffffffff, []⟩]
  outputs := [⟨1000, [0x51]⟩]
  lockTime := 0

def knowing (id : Txid) (bytes : Bytes) (hash : BlockHash) : Source (StateM Unit) where
  answer
    | .transaction id' =>
      return if id' = id then .ok (bytes, ⟨some hash, none⟩) else undelivered .cutBody
    | _ => return undelivered .cutBody

def repeating (page : Bytes) : Wire (StateM Unit) where
  deliver _ := return .answered 200 (.whole page)
  readCookie := return none

theorem repeating_supplies {page bytes : Bytes} {id : Txid} {location : Location}
    (hentry : (readJson s!"tx/{id.display}" AddressIndex.entryShape page >>= fun e =>
      (AddressIndex.readHex "hex" e.hex).map fun bytes => (bytes, e.location)) =
        .ok (bytes, location)) :
    (Id.run (((((AddressIndex.mk here).source (repeating page).noted).answer (.transaction id)).run
      []).run ())).1.1 =
      .ok (bytes, location) := by
  have hheading : heading (here.join s!"tx/{id.display}") none =
      .ok (here.join s!"tx/{id.display}", none) :=
    heading_here (IndexPage.transaction id).slashed_segments
      (IndexPage.transaction id).short_segments
  simp only [AddressIndex.source, AddressIndex.answer, fetchJson, fetch, hheading]
  exact hentry

theorem repeated_entry (t : Transaction) (height : Option Height) (path : String) :
    (readJson path AddressIndex.entryShape (Content.json (entryJson t height)).body >>= fun e =>
      (AddressIndex.readHex "hex" e.hex).map fun bytes => (bytes, e.location)) =
        .ok (t.encode, ⟨none, height⟩) := by
  rw [read_json_body (plain_entry t height) (index_reads_entry t height)]
  simp only [bind, Except.bind, AddressIndex.readHex, Hex.decode_encode]
  rfl

theorem errand_count_patchwork :
    errandCount patchwork.inputs ⟨some Hash256.zero, none⟩ = 4 := by decide +kernel

/-- All four questions come before any of them is answered. -/
theorem questions_at_once_patchwork {source : Source (StateM Unit)}
    (hcounted : Counted .regtest patchwork.txid source () 4)
    (hquestions : questions .regtest patchwork.txid source () = .transaction patchwork.txid ::
      ((spentTxids patchwork.inputs).map .transactionBytes ++
        heightQuestions ⟨some Hash256.zero, none⟩)) :
    ∃ start : Turnstile Query, Turnstile.new 4 = .ok start ∧
      (start.run ((questions .regtest patchwork.txid source ()).map .come)).acquired = 4 := by
  obtain ⟨start, hnew⟩ := Turnstile.exists_new (ι := Query) (show 1 ≤ 4 by decide)
  obtain ⟨hsound, -, -, hwaiting, -⟩ := Turnstile.sound_new hnew
  have hspent : spentTxids patchwork.inputs = [strangerId, neighborId] := by decide +kernel
  have harrivals (qs : List Query) : Turnstile.arrivals (qs.map .come) = qs := by
    simp [Turnstile.arrivals, Turnstile.Move.newcomer?, Function.comp_def]
  refine ⟨start, hnew, ?_⟩
  have hcount := hcounted.at_once start ((questions .regtest patchwork.txid source ()).map .come)
      hsound hwaiting
    (by rw [harrivals]) ?_ ?_
  · rw [hcount]
    cases hnew
    rfl
  · rintro q ⟨past, hprefix, -⟩
    -- nobody goes
    have hgo := hprefix.subset (List.mem_append_right past List.mem_cons_self)
    obtain ⟨_, -, hcome⟩ := List.mem_map.mp hgo
    cases hcome
  · rw [hquestions, hspent]
    cases hnew
    rfl

/-- Four inputs take two lookups, and the height one more; an index that knows the height gets three
requests. -/
theorem lookups_are_exact_patchwork :
    TxRecord.read patchwork.encode = .ok (TxRecord.ofTransaction patchwork) ∧
      Supplies (knowing patchwork.txid patchwork.encode Hash256.zero) () patchwork.txid
        patchwork.encode
        ⟨some Hash256.zero, none⟩ ∧
      Errands patchwork.txid patchwork.inputs ⟨some Hash256.zero, none⟩
        (questions .regtest patchwork.txid
          (knowing patchwork.txid patchwork.encode Hash256.zero) ()) ∧
      (∃ t : Turnstile Nat, Turnstile.new 1 = .ok t ∧
        (Id.run ((((transaction .regtest patchwork.txid).runWith
          (knowing patchwork.txid patchwork.encode Hash256.zero).limited).run t).run
            ())).1.2.acquired = 4) ∧
      (∃ start : Turnstile Query, Turnstile.new 4 = .ok start ∧
        (start.run ((questions .regtest patchwork.txid
          (knowing patchwork.txid patchwork.encode Hash256.zero) ()).map .come)).acquired = 4) ∧
      ∃ es, (Id.run ((((transaction .regtest patchwork.txid).runWith ((AddressIndex.mk here).source
          (repeating (Content.json (entryJson patchwork (some 5))).body).noted)).run []).run
            ())).1.2 =
            es ∧
        RequestedOnce (AddressIndex.mk here) patchwork.txid patchwork.inputs es := by
  have hdecode : Transaction.decode patchwork.encode = .ok patchwork := by rfl
  have hread : TxRecord.read patchwork.encode = .ok (TxRecord.ofTransaction patchwork) :=
    TxRecord.read_encode (Transaction.decode_eq_ok.mp hdecode).1
  have hsupplies : Supplies (knowing patchwork.txid patchwork.encode Hash256.zero) () patchwork.txid
      patchwork.encode
      ⟨some Hash256.zero, none⟩ := by
    simp only [Supplies, knowing, if_true]
    rfl
  obtain ⟨hasked, hrequested⟩ := lookups_are_exact .regtest patchwork.txid hread
  obtain ⟨herrands, hcounted⟩ := hasked _ () _ hsupplies
  rw [show (TxRecord.ofTransaction patchwork).inputs = patchwork.inputs from rfl,
    errand_count_patchwork] at hcounted
  obtain ⟨es, hes, honce⟩ := hrequested _ (AddressIndex.mk here) [] () _
    (repeating_supplies (repeated_entry patchwork (some 5) _)) rfl
  obtain ⟨t, hnew⟩ := Turnstile.exists_new (ι := Nat) (Nat.le_refl 1)
  have hacquired := hcounted.in_turn t (Turnstile.idle_new (Nat.le_refl 1) hnew)
  refine ⟨hread, hsupplies, herrands, ⟨t, hnew, ?_⟩,
    questions_at_once_patchwork hcounted (questions_eq hsupplies hread), es, hes, honce⟩
  have hzero : t.acquired = 0 := by
    cases hnew
    rfl
  rw [hacquired, hzero]

end ChainLens.Explorer
