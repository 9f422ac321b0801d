import ChainLens.Explorer.Addresses
import ChainLens.Proofs.Explorer.BlockPaths

/-!
Under which ids transactions are reported. A report bears the id of the bytes that were served, and
nothing compares it with the id that was asked for; so the two agree for sources that serve every
transaction under its own id.
-/

namespace ChainLens

/-- What is served under an id, as far as it is a transaction, has that id. -/
structure Source.Truthful (source : Source Id) : Prop where
  bytes : ∀ id bytes record, source.answer (.transactionBytes id) = .ok bytes →
      TxRecord.read bytes = .ok record →
    record.txid = id
  transaction : ∀ id bytes location record, source.answer (.transaction id) =
      .ok (bytes, location) →
    TxRecord.read bytes = .ok record → record.txid = id

namespace Explorer

open Lookup

/-- Amount, template and address of an input are those of the output it names, in a transaction of
the id it names. -/
def Vouched (source : Source Id) (network : Network) (input : InputReport) : Prop :=
  ∃ bytes record output, source.answer (.transactionBytes input.txid) = .ok bytes ∧
    TxRecord.read bytes = .ok record ∧ record.txid = input.txid ∧
    record.outputs[input.vout.toNat]? = some output ∧ input.value = output.value ∧
    input.template = some (Template.of output.script) ∧
      input.address = Script.address? network output.script

variable {source : Source Id} {network : Network}

theorem spent_record_eq_some {reply : Except Failure Bytes} {record : TxRecord} :
    spentRecord? reply = some record ↔ ∃ bytes, reply = .ok bytes ∧
    TxRecord.read bytes = .ok record := by
  cases reply with
  | error failure => simp [spentRecord?]
  | ok bytes =>
    cases hread : TxRecord.read bytes with
    | error flaw => simp [spentRecord?, hread, Except.toOption]
    | ok found => simp [spentRecord?, hread, Except.toOption]

/-- An output that an input spends stands in a transaction that was served under its id. -/
theorem exists_of_spent_output {inputs : List TxInput} {input : TxInput} {output : TxOutput}
    (h : spentOutput? (spentFrom source inputs) input = some output) :
    ∃ bytes record, source.answer (.transactionBytes input.previousTxid) = .ok bytes ∧
      TxRecord.read bytes = .ok record ∧ record.outputs[input.previousIndex.toNat]? =
        some output := by
  simp only [spentOutput?, Option.bind_eq_bind, Option.bind_eq_some_iff] at h
  obtain ⟨known, hlookup, record, rfl, houtput⟩ := h
  have hserved : some record =
      spentRecord? (source.answer (.transactionBytes input.previousTxid)) :=
    eq_of_lookup_map (f := fun id => spentRecord? (source.answer (.transactionBytes id))) hlookup
  obtain ⟨bytes, hanswer, hread⟩ := spent_record_eq_some.mp hserved.symm
  exact ⟨bytes, record, hanswer, hread, houtput⟩

/-- At a truthful source every resolved input is vouched for. -/
theorem vouched_of_resolved (h : source.Truthful) {inputs : List TxInput} {input : TxInput}
    (hresolved : (reportInput network (spentFrom source inputs) input).resolved = true) :
    Vouched source network (reportInput network (spentFrom source inputs) input) := by
  cases hcoinbase : input.isCoinbase with
  | true =>
    rw [report_input_minted network _ hcoinbase] at hresolved
    cases hresolved
  | false =>
    cases houtput : spentOutput? (spentFrom source inputs) input with
    | none =>
      rw [report_input_unknown network hcoinbase houtput] at hresolved
      cases hresolved
    | some output =>
      obtain ⟨bytes, record, hanswer, hread, hindex⟩ := exists_of_spent_output houtput
      have hid : record.txid = input.previousTxid := h.bytes _ _ _ hanswer hread
      rw [report_input_spent network hcoinbase houtput]
      exact ⟨bytes, record, output, hanswer, hread, hid, hindex, rfl, rfl, rfl⟩

/-- A report bears the id of its record, and its inputs are looked up with the source. -/
theorem report_eq_ok {record : TxRecord} {location : Location} {r : TransactionReport}
    (h : (report network record location).outcome source = .ok r) :
    r.txid = record.txid ∧
    r.inputs = record.inputs.map (reportInput network (spentFrom source record.inputs)) := by
  simp only [report, concludeReport, outcome_bind, bind_eq_ok, outcome_report_inputs, outcome_pure]
    at h
  obtain ⟨inputs, hinputs, height, -, fee, -, hr⟩ := h
  obtain rfl := Except.ok.inj hinputs
  obtain rfl := Except.ok.inj hr
  exact ⟨rfl, rfl⟩

def InputsVouched (source : Source Id) (network : Network) (r : TransactionReport) : Prop :=
  ∀ input ∈ r.inputs, input.resolved = true → Vouched source network input

theorem inputs_vouched_of_report (h : source.Truthful) {record : TxRecord} {location : Location}
    {r : TransactionReport} (hr : (report network record location).outcome source = .ok r) :
    InputsVouched source network r := by
  intro input hinput hresolved
  rw [(report_eq_ok hr).2, List.mem_map] at hinput
  obtain ⟨spending, -, rfl⟩ := hinput
  exact vouched_of_resolved h hresolved

/-- A transaction that is served and reads is reported with its location. -/
theorem outcome_transaction {id : Txid} {bytes : Bytes} {location : Location} {record : TxRecord}
    (hserved : source.answer (.transaction id) = Except.ok (bytes, location))
    (hread : TxRecord.read bytes = .ok record) :
    (transaction network id).outcome source = (report network record location).outcome source := by
  rw [transaction, outcome_ask_bind, hserved]
  simp only [Except.bind, hread]

/-- A truthful source leads to reports under the id that was asked for. -/
theorem transaction_bears_id (h : source.Truthful) {id : Txid} {r : TransactionReport}
    (hr : (transaction network id).outcome source = .ok r) :
    r.txid = id ∧ InputsVouched source network r := by
  simp only [transaction, outcome_bind, bind_eq_ok] at hr
  obtain ⟨⟨bytes, location⟩, hanswer, hr⟩ := hr
  cases hread : TxRecord.read bytes with
  | error flaw =>
    simp only [hread] at hr
    cases hr
  | ok record =>
    simp only [hread] at hr
    have hid : record.txid = id := h.transaction id bytes location record hanswer hread
    exact ⟨(report_eq_ok hr).1.trans hid, inputs_vouched_of_report h hr⟩

theorem listed_transaction_bears_id (h : source.Truthful) {location : Location} {id : Txid}
    {r : TransactionReport}
    (hr : (listedTransaction network location id).outcome source = .ok r) :
    r.txid = id ∧ InputsVouched source network r := by
  simp only [listedTransaction, outcome_bind, outcome_sound, bind_eq_ok, mapError_eq_ok] at hr
  obtain ⟨bytes, hanswer, record, hread, hr⟩ := hr
  have hid : record.txid = id := h.bytes id bytes record hanswer hread
  exact ⟨(report_eq_ok hr).1.trans hid, inputs_vouched_of_report h hr⟩

theorem map_txid_of_mapM {β : Type} {P : TransactionReport → Prop}
    {f : β → Except Failure TransactionReport}
    {g : β → Txid} (hone : ∀ b r, f b = .ok r → r.txid = g b ∧ P r) {l : List β}
    {rs : List TransactionReport}
    (hr : l.mapM f = .ok rs) : rs.map TransactionReport.txid = l.map g ∧ ∀ r ∈ rs, P r := by
  have hall : List.Forall₂ (fun b r => f b = .ok r) l rs := mapM_eq_ok.mp hr
  clear hr
  induction hall with
  | nil => exact ⟨rfl, fun r hr => absurd hr List.not_mem_nil⟩
  | @cons b r l rs hb _ ih =>
    obtain ⟨hid, hr⟩ := hone b r hb
    obtain ⟨hids, hrs⟩ := ih
    constructor
    · rw [List.map_cons, List.map_cons, hid, hids]
    · exact List.forall_mem_cons.mpr ⟨hr, hrs⟩

/-- A block from its bytes lists the ids of the transactions in them. -/
theorem txids_of_bytes {hash : BlockHash} {facts : BlockFacts} {bytes : Bytes}
    {loaded : LoadedBlock}
    (hl : fromBytes hash facts bytes = .ok loaded) :
    ∃ ts, loaded.transactions = some ts ∧ loaded.report.txids = ts.map Transaction.txid := by
  simp only [fromBytes, bind_eq_ok] at hl
  obtain ⟨block, -, ⟨⟩, -, hl⟩ := hl
  obtain rfl := Except.ok.inj hl
  exact ⟨block.transactions, rfl, rfl⟩

theorem transactions_of_facts {hash : BlockHash} {facts : BlockFacts} {loaded : LoadedBlock}
    (hl : fromFacts hash facts = .ok loaded) : loaded.transactions = none := by
  cases hheader : facts.header with
  | none =>
    simp only [fromFacts, hheader] at hl
    cases hl
  | some bytes =>
    simp only [fromFacts, hheader, bind_eq_ok] at hl
    obtain ⟨header, -, ⟨⟩, -, hl⟩ := hl
    obtain rfl := Except.ok.inj hl
    rfl

/-- A loaded block lists the ids of the transactions that came with it, if any came. -/
theorem txids_of_load {hash : BlockHash} {loaded : LoadedBlock}
    (hl : (load hash).outcome source = .ok loaded) :
    loaded.transactions = none ∨
      ∃ ts, loaded.transactions = some ts ∧ loaded.report.txids = ts.map Transaction.txid := by
  rw [load, outcome_attempt_bind, outcome_ask_bind] at hl
  simp only [loadFrom] at hl
  obtain ⟨facts, -, hl⟩ := bind_eq_ok.mp hl
  cases hbytes : source.answer (.blockBytes hash) with
  | ok bytes =>
    simp only [hbytes, outcome_sound, mapError_eq_ok] at hl
    exact .inr (txids_of_bytes hl)
  | error failure =>
    rw [hbytes] at hl
    cases failure with
    | unsupported ability =>
      simp only [outcome_sound, mapError_eq_ok] at hl
      exact .inl (transactions_of_facts hl)
    | _ => cases hl

/-- The transactions of a block are reported under the ids it lists, in order. -/
theorem full_block_bears_ids (h : source.Truthful) {ref : BlockRef} {w : FullBlockReport}
    (hw : (fullBlock network ref).outcome source = .ok w) :
    w.transactions.map TransactionReport.txid = w.block.txids ∧
      ∀ r ∈ w.transactions, InputsVouched source network r := by
  rw [full_block_eq, outcome_bind, bind_eq_ok] at hw
  obtain ⟨hash, -, hw⟩ := hw
  rw [outcome_bind, bind_eq_ok] at hw
  obtain ⟨loaded, hload, hw⟩ := hw
  rw [completed] at hw
  rcases txids_of_load hload with hnone | ⟨ts, hsome, hids⟩
  · -- every listed id is fetched for itself
    simp only [hnone, outcome_bind, outcome_mapM, bind_eq_ok] at hw
    obtain ⟨rs, hrs, hw⟩ := hw
    obtain rfl := Except.ok.inj hw
    have hall := map_txid_of_mapM (fun id r hr => listed_transaction_bears_id h hr) hrs
    rwa [List.map_id'] at hall
  · -- the ids are those of the transactions in the bytes
    simp only [hsome, outcome_bind, outcome_mapM, bind_eq_ok] at hw
    obtain ⟨rs, hrs, hw⟩ := hw
    obtain rfl := Except.ok.inj hw
    have hall := map_txid_of_mapM (g := Transaction.txid)
      (fun t r hr => ⟨(report_eq_ok hr).1, inputs_vouched_of_report h hr⟩) hrs
    rwa [hids]

/-- The transactions of an address are reported under the ids in its history, in order. -/
theorem transactions_bear_ids (h : source.Truthful) {address : String} {rs : List TransactionReport}
    (hr : (transactions network address).outcome source = .ok rs) :
    (history network address).outcome source = .ok (rs.map TransactionReport.txid) ∧
      ∀ r ∈ rs, InputsVouched source network r := by
  simp only [transactions, outcome_bind, outcome_mapM, bind_eq_ok] at hr
  obtain ⟨ids, hids, hrs⟩ := hr
  obtain ⟨htxids, hvouched⟩ := map_txid_of_mapM (fun id r hr => transaction_bears_id h hr) hrs
  rw [List.map_id'] at htxids
  rw [htxids]
  exact ⟨hids, hvouched⟩

/-- Every transaction is reported under the id that was asked for or listed, and every resolved
input by an output of the transaction that it names. -/
structure BearsIds (source : Source Id) (network : Network) : Prop where
  report : ∀ record location r, (report network record location).outcome source = .ok r →
    InputsVouched source network r
  transaction : ∀ id r, (transaction network id).outcome source = .ok r →
    r.txid = id ∧ InputsVouched source network r
  transactions : ∀ address rs, (transactions network address).outcome source = .ok rs →
    (history network address).outcome source = .ok (rs.map TransactionReport.txid) ∧
      ∀ r ∈ rs, InputsVouched source network r
  fullBlock : ∀ ref w, (fullBlock network ref).outcome source = .ok w →
    w.transactions.map TransactionReport.txid = w.block.txids ∧
      ∀ r ∈ w.transactions, InputsVouched source network r

/-- Reports are true to the ids as far as the source is: where each transaction is served under its
own id. -/
theorem reports_bear_ids (h : source.Truthful) (network : Network) : BearsIds source network where
  report _ _ _ hr := inputs_vouched_of_report h hr
  transaction _ _ hr := transaction_bears_id h hr
  transactions _ _ hr := transactions_bear_ids h hr
  fullBlock _ _ hw := full_block_bears_ids h hw

/-- One unconfirmed transaction, served under an id that need not be its own. -/
def serving (id : Txid) (bytes : Bytes) : Source Id :=
  Table.source
    { tip := none
      transactionBytes := [(id, .ok bytes)]
      locations := [(id, .ok ⟨none, none⟩)]
      blockBytes := []
      blockFacts := []
      blocksAt := [] }

theorem find_single {κ α : Type} [DecidableEq κ] {name : String} {show' : κ → String}
    {key key' : κ} {a b : α}
    (h : Table.find name show' [(key, .ok a)] key' = .ok b) : key' = key ∧ b = a := by
  by_cases heq : key' = key
  · subst heq
    rw [Table.find_cons_self] at h
    exact ⟨rfl, (Except.ok.inj h).symm⟩
  · have hne : (key' == key) = false := beq_false_of_ne heq
    simp only [Table.find, List.lookup_cons, hne, List.lookup_nil] at h
    cases h

/-- A source with one transaction under its own id is truthful. -/
theorem serving_truthful {bytes : Bytes} {record : TxRecord}
    (h : TxRecord.read bytes = .ok record) :
    (serving record.txid bytes).Truthful where
  bytes id found r hfound hr := by
    obtain ⟨rfl, rfl⟩ := find_single (κ := Txid) hfound
    rw [h] at hr
    obtain rfl := Except.ok.inj hr
    rfl
  transaction id found location r hfound hr := by
    obtain ⟨served, hserved, hrest⟩ := bind_eq_ok.mp hfound
    obtain ⟨place, -, hpair⟩ := bind_eq_ok.mp hrest
    obtain ⟨rfl, rfl⟩ := find_single (κ := Txid) hserved
    obtain ⟨rfl, -⟩ := Prod.mk.inj (Except.ok.inj hpair)
    rw [h] at hr
    obtain rfl := Except.ok.inj hr
    rfl

def minted : Transaction where
  version := 1
  inputs := [⟨Hash256.zero, 0xffffffff, [0x51], 0xffffffff, []⟩]
  outputs := [⟨1000, [0x51]⟩]
  lockTime := 0

theorem reports_bear_ids_minted :
    (serving minted.txid minted.encode).Truthful ∧
      ∃ r, (transaction .regtest minted.txid).outcome (serving minted.txid minted.encode) = .ok r ∧
        r.txid = minted.txid := by
  have hd : Transaction.decode minted.encode = .ok minted := by rfl
  have hread : TxRecord.read minted.encode = .ok (TxRecord.ofTransaction minted) :=
    TxRecord.read_encode (Transaction.decode_eq_ok.mp hd).1
  have htruthful : (serving minted.txid minted.encode).Truthful := serving_truthful hread
  have hserved : (serving minted.txid minted.encode).answer (.transaction minted.txid) =
      Except.ok (minted.encode, ⟨none, none⟩) := by
    simp only [serving, Table.source, Table.answer, Table.find_cons_self]
    rfl
  -- a coinbase spends nothing, so the report asks no further
  obtain ⟨r, hr⟩ : ∃ r, (report .regtest (TxRecord.ofTransaction minted) ⟨none, none⟩).outcome
      (serving minted.txid minted.encode) = .ok r := ⟨_, rfl⟩
  rw [← outcome_transaction hserved hread] at hr
  exact ⟨htruthful, r, hr, ((reports_bear_ids htruthful .regtest).transaction _ r hr).1⟩

def strangerId : Txid := ⟨List.replicate 32 9, rfl⟩

/-- It would spend its own output if the stranger's id were its own. -/
def ouroboros : Transaction where
  version := 2
  inputs := [⟨strangerId, 0, [], 0xffffffff, []⟩]
  outputs := [⟨1000, [0x51]⟩]
  lockTime := 0

theorem stranger_reported : ∃ r, (transaction .regtest strangerId).outcome
    (serving strangerId ouroboros.encode) = .ok r ∧ r.txid = ouroboros.txid ∧ r.fee = 0 :=
  ⟨_, rfl, rfl, rfl⟩

theorem ouroboros_ne_stranger : ouroboros.txid ≠ strangerId := by decide +kernel

/-- A source that serves something else under an id is believed. -/
theorem not_every_source_bears_ids :
    ¬ ∀ (source : Source Id) (network : Network), BearsIds source network := by
  intro h
  obtain ⟨r, hr, hid, -⟩ := stranger_reported
  have hbears := (h (serving strangerId ouroboros.encode) .regtest).transaction strangerId r hr
  exact ouroboros_ne_stranger (hid.symm.trans hbears.1)

end Explorer
end ChainLens
