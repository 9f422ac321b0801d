import ChainLens.Proofs.Explorer.Attested
import ChainLens.Proofs.Explorer.PassedOver
import ChainLens.Source.Combine

/-!
Reports against their own bytes. Whoever decodes the bytes in a report finds the transaction that
the report describes, field by field, whether it was served by itself or within a block, and
whatever else the source replied.
-/

namespace ChainLens

def InputReport.input (i : InputReport) : TxInput :=
  { previousTxid := i.txid, previousIndex := i.vout, scriptSig := i.scriptSig,
    sequence := i.sequence, witness := i.witness }

def OutputReport.output (o : OutputReport) : TxOutput := { value := o.value, script := o.script }

namespace Explorer

open Lookup

/-- The report is a true copy of a transaction, and its bytes are those of the transaction. -/
structure TrueCopy (network : Network) (record : TxRecord) (r : TransactionReport) : Prop where
  read : TxRecord.read r.hex = .ok record
  txid : r.txid = record.txid
  wtxid : r.wtxid = record.wtxid
  version : r.version = record.version
  lockTime : r.lockTime = record.lockTime
  hasWitness : r.hasWitness = record.hasWitness
  size : r.size = record.size
  vsize : r.vsize = record.vsize
  weight : r.weight = record.weight
  inputs : r.inputs.map InputReport.input = record.inputs
  coinbase : ∀ i ∈ r.inputs, i.coinbase = i.input.isCoinbase
  outputs : r.outputs.map OutputReport.output = record.outputs
  described : ∀ (k : Nat) (o : OutputReport), r.outputs[k]? = some o →
    o.n = k ∧ o.template = Template.of o.script ∧ o.address = Script.address? network o.script
  /-- The fee is the difference of sums that know no bound. -/
  fee : r.fee = exactFee (r.inputs.map InputReport.value) (r.outputs.map OutputReport.value)

variable {network : Network} {record : TxRecord} {location : Location} {r : TransactionReport}
    {t : List Line}

theorem input_report_input (network : Network) (spent : Spent) (input : TxInput) :
    (reportInput network spent input).input = input ∧
      (reportInput network spent input).coinbase = input.isCoinbase := by
  rw [reportInput]
  split
  · exact ⟨rfl, rfl⟩
  · split <;> exact ⟨rfl, rfl⟩

/-- The reported inputs are those of the transaction. -/
theorem map_input_report_inputs (network : Network) (spent : Spent) (inputs : List TxInput) :
    (inputs.map (reportInput network spent)).map InputReport.input = inputs := by
  have hsame : InputReport.input ∘ reportInput network spent = id :=
    funext fun input => (input_report_input network spent input).1
  rw [List.map_map, hsame, List.map_id]

theorem coinbase_of_mem_report_inputs {spent : Spent} {inputs : List TxInput} {i : InputReport}
    (h : i ∈ inputs.map (reportInput network spent)) : i.coinbase = i.input.isCoinbase := by
  obtain ⟨input, -, rfl⟩ := List.mem_map.mp h
  obtain ⟨hinput, hcoinbase⟩ := input_report_input network spent input
  rw [hcoinbase, hinput]

/-- The reported output at a place is the one of the transaction there, with its form and
address. -/
theorem report_outputs_eq_some {outputs : List TxOutput} {k : Nat} {o : OutputReport} :
    (reportOutputs network outputs)[k]? = some o ↔
      ∃ output, outputs[k]? = some output ∧
        o = ⟨k, output.value, output.script, Template.of output.script,
          Script.address? network output.script⟩ := by
  simp only [reportOutputs, List.getElem?_map, List.getElem?_zipIdx, Option.map_map,
    Option.map_eq_some_iff, Function.comp_apply, Nat.zero_add]
  constructor
  · intro h
    obtain ⟨output, houtput, ho⟩ := h
    exact ⟨output, houtput, ho.symm⟩
  · intro h
    obtain ⟨output, houtput, ho⟩ := h
    exact ⟨output, houtput, ho.symm⟩

theorem map_output_report_outputs (network : Network) (outputs : List TxOutput) :
    (reportOutputs network outputs).map OutputReport.output = outputs := by
  have hnumbered : (reportOutputs network outputs).map OutputReport.output =
      outputs.zipIdx.map Prod.fst := by
    rw [reportOutputs, List.map_map]
    rfl
  rw [hnumbered]
  exact List.zipIdx_map_fst ..

/-- A report of a record is a true copy, as long as the record is that of its own bytes. -/
theorem true_copy_of_report (hread : TxRecord.read record.raw = .ok record)
    (h : (report network record location).Succeeds t r) : TrueCopy network record r := by
  obtain ⟨t₁, spent, t₂, height, f, -, -, -, hfee, rfl⟩ := succeeds_report.mp h
  have hout : (reportOutputs network record.outputs).map OutputReport.value = amountsOut record :=
    map_value_report_outputs network record.outputs
  refine { read := hread, txid := rfl, wtxid := rfl, version := rfl, lockTime := rfl,
           hasWitness := rfl, size := rfl, vsize := rfl, weight := rfl,
           inputs := map_input_report_inputs network spent record.inputs,
           coinbase := fun i hi => coinbase_of_mem_report_inputs hi,
           outputs := map_output_report_outputs network record.outputs, described := ?_, fee := ?_ }
  · intro k o ho
    obtain ⟨output, -, rfl⟩ := report_outputs_eq_some.mp ho
    exact ⟨rfl, rfl, rfl⟩
  · have hexact : f =
        exactFee (amountsIn (record.inputs.map (reportInput network spent))) (amountsOut record) :=
      eq_exact_fee_of_fee hfee
    rw [← hout] at hexact
    exact hexact

/-- What is read from bytes keeps the bytes. -/
theorem read_raw_of_read {bytes : Bytes} (h : TxRecord.read bytes = .ok record) :
    TxRecord.read record.raw = .ok record := by
  have hraw : record.raw = bytes := by
    obtain ⟨tx, -, rfl⟩ := TxRecord.read_eq_ok.mp h
    rfl
  rw [hraw, h]

/-- A transaction is reported as a copy of what was served. -/
theorem true_copy_of_transaction {id : Txid} (h : (transaction network id).Succeeds t r) :
    ∃ record, TrueCopy network record r := by
  obtain ⟨⟨bytes, location⟩, rest, -, hrest⟩ := succeeds_ask_bind.mp h
  cases hread : TxRecord.read bytes with
  | error flaw =>
    simp only [hread] at hrest
    exact absurd hrest (not_succeeds_throw _)
  | ok record =>
    simp only [hread] at hrest
    exact ⟨record, true_copy_of_report (read_raw_of_read hread) hrest⟩

theorem true_copy_of_listed {id : Txid} (h : (listedTransaction network location id).Succeeds t r) :
    ∃ record, TrueCopy network record r := by
  obtain ⟨bytes, rest, -, hrest⟩ := succeeds_ask_bind.mp h
  simp only [succeeds_bind, succeeds_sound] at hrest
  obtain ⟨_, record, t₂, -, ⟨-, hread⟩, hreport⟩ := hrest
  exact ⟨record, true_copy_of_report (read_raw_of_read hread) hreport⟩

/-- The transactions that come with a loaded block are read back from their written forms. -/
theorem readable_of_load {hash : BlockHash} {loaded : LoadedBlock}
    (h : (load hash).Succeeds t loaded)
    {ts : List Transaction} (hts : loaded.transactions = some ts) : ∀ tx ∈ ts, tx.Readable := by
  obtain ⟨reply, asked, -, hasked⟩ := succeeds_attempt_bind.mp h
  obtain ⟨facts, rest, -, hrest⟩ := succeeds_ask_bind.mp hasked
  cases reply with
  | ok bytes =>
    obtain ⟨-, hloaded⟩ := succeeds_sound.mp hrest
    obtain ⟨b, hb, -, rfl⟩ := from_bytes_eq_ok_iff.mp hloaded
    obtain rfl := Option.some.inj hts
    exact (Block.decode_eq_ok.mp hb).1.transactions
  | error failure =>
    cases failure with
    | unsupported ability =>
      -- a block that is only listed comes without its transactions
      obtain ⟨-, hloaded⟩ := succeeds_sound.mp hrest
      rw [transactions_of_facts hloaded] at hts
      cases hts
    | _ => exact absurd hrest (not_succeeds_throw _)

/-- Each transaction of a full block is reported as a copy of what was served. -/
theorem true_copy_of_full_block {ref : BlockRef} {w : FullBlockReport}
    (h : (fullBlock network ref).Succeeds t w) :
    ∀ r ∈ w.transactions, ∃ record, TrueCopy network record r := by
  rw [full_block_eq] at h
  obtain ⟨_, hash, _, -, -, hrest⟩ := succeeds_bind.mp h
  obtain ⟨_, loaded, _, -, hload, hcompleted⟩ := succeeds_bind.mp hrest
  intro r hr
  rw [completed] at hcompleted
  cases hts : loaded.transactions with
  | some ts =>
    simp only [hts, succeeds_bind, succeeds_pure] at hcompleted
    obtain ⟨_, rs, _, -, hrs, -, rfl⟩ := hcompleted
    obtain ⟨tx, htx, _, hreport⟩ := exists_succeeds_of_mapM hrs hr
    have hread : TxRecord.read tx.encode = .ok (TxRecord.ofTransaction tx) :=
      TxRecord.read_encode (readable_of_load hload hts tx htx)
    exact ⟨TxRecord.ofTransaction tx, true_copy_of_report hread hreport⟩
  | none =>
    simp only [hts, succeeds_bind, succeeds_pure] at hcompleted
    obtain ⟨_, rs, _, -, hrs, -, rfl⟩ := hcompleted
    obtain ⟨id, -, _, hlisted⟩ := exists_succeeds_of_mapM hrs hr
    exact true_copy_of_listed hlisted

/-- Whatever the call, the reports in its result are copies of what was served. -/
theorem true_copy_of_call (call : Call) {result : call.Result}
    (h : (call.lookup network).Succeeds t result) :
    ∀ r ∈ call.reports result, ∃ record, TrueCopy network record r := by
  intro r hr
  cases call with
  | transaction id =>
    obtain rfl := List.mem_singleton.mp hr
    exact true_copy_of_transaction h
  | fullBlock ref => exact true_copy_of_full_block h r hr
  | transactions address =>
    obtain ⟨_, ids, _, -, -, hrs⟩ := succeeds_bind.mp h
    obtain ⟨id, -, _, hone⟩ := exists_succeeds_of_mapM hrs hr
    exact true_copy_of_transaction hone
  | _ => cases hr

/-- Whatever a source replies, and whatever it remembers in between, the reports that a call returns
are true copies. -/
theorem reports_are_true_copies {σ : Type} {source : Source (StateM σ)}
    {network : Network} (call : Call)
    {memory after : σ} {result : call.Result}
    (h : Id.run (((call.lookup network).runWith source).run memory) = (.ok result, after)) :
    ∀ r ∈ call.reports result, ∃ record, TrueCopy network record r := by
  obtain ⟨t, ht⟩ := (call.lookup network).run.exists_comes_run source memory
  have hresult : (Id.run (((call.lookup network).run.run source.answer).run memory)).1 =
      .ok result :=
    congrArg Prod.fst h
  rw [hresult] at ht
  exact true_copy_of_call call ht

theorem reports_are_true_copies_two_elements :
    ∃ r asked, Id.run (((Call.lookup .regtest (.transaction strangerId)).runWith
        (serving strangerId TxRecord.twoElementsBytes).recorded).run []) = (.ok r, asked) ∧
      ∃ record, TrueCopy .regtest record r := by
  obtain ⟨r, asked, hr⟩ : ∃ r asked,
      Id.run (((Call.lookup .regtest (.transaction strangerId)).runWith
      (serving strangerId TxRecord.twoElementsBytes).recorded).run []) =
        (.ok r, asked) := ⟨_, _, rfl⟩
  exact ⟨r, asked, hr,
    reports_are_true_copies (.transaction strangerId) hr r (List.mem_singleton_self r)⟩

end Explorer
end ChainLens
