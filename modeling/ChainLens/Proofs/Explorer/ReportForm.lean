import ChainLens.Proofs.Chain.Totals
import ChainLens.Proofs.Explorer.SpentOutputs
import ChainLens.Proofs.Source.Transcript

/-!
A report of a transaction part by part. The source decides three things in it: what the inputs
spend, the height, and with the inputs the fee. All else is the record's own, so a report is told by
these three.
-/

namespace ChainLens.Explorer

open Lookup

/-- The reports of a transaction's inputs, each with what the source knows of the output it
spends. -/
def inputsFrom (source : Source Id) (network : Network) (record : TxRecord) : List InputReport :=
  record.inputs.map (reportInput network (spentFrom source record.inputs))

def amountsIn (inputs : List InputReport) : List UInt64 := inputs.map InputReport.value

def amountsOut (record : TxRecord) : List UInt64 := record.outputs.map TxOutput.value

theorem map_value_report_outputs (network : Network) (outputs : List TxOutput) :
    (reportOutputs network outputs).map OutputReport.value = outputs.map TxOutput.value := by
  have hnumbered : (reportOutputs network outputs).map OutputReport.value =
      outputs.zipIdx.map (TxOutput.value ∘ Prod.fst) := by
    rw [reportOutputs, List.map_map]
    rfl
  have hfront : outputs.zipIdx.map Prod.fst = outputs := List.zipIdx_map_fst ..
  rw [hnumbered, ← List.map_map, hfront]

/-- The height of a location is decided by what a source says of blocks. -/
theorem outcome_confirmed_height_congr {a b : Source Id}
    (h : ∀ hash, a.answer (.heightOf hash) = b.answer (.heightOf hash)) (location : Location) :
    (confirmedHeight location).outcome a = (confirmedHeight location).outcome b := by
  obtain ⟨block, height⟩ := location
  cases height with
  | some height => rfl
  | none =>
    cases block with
    | none => rfl
    | some hash =>
      rw [confirmedHeight, outcome_attempt_bind, outcome_attempt_bind, h]
      cases b.answer (.heightOf hash) with
      | ok height => rfl
      | error failure => cases failure <;> rfl

/-- A report is made in two steps that can fail: the height and then the fee. -/
theorem outcome_report (source : Source Id) (network : Network) (record : TxRecord)
    (location : Location) :
    (report network record location).outcome source =
      ((confirmedHeight location).outcome source >>= fun height =>
        (fee (amountsIn (inputsFrom source network record)) (amountsOut record)).mapError
          Failure.malformed >>= fun f =>
          .ok (reportWith network record location.block (inputsFrom source network record)
            height f)) := by
  simp only [report, concludeReport, outcome_bind, outcome_report_inputs, outcome_sound,
    outcome_pure, map_value_report_outputs]
  rfl

/-- A report comes about with a height and a fee, and is told by these and the inputs. -/
theorem report_eq_ok_iff {source : Source Id} {network : Network} {record : TxRecord}
    {location : Location}
    {r : TransactionReport} :
    (report network record location).outcome source = .ok r ↔
      ∃ height f, (confirmedHeight location).outcome source = .ok height ∧
        fee (amountsIn (inputsFrom source network record)) (amountsOut record) = .ok f ∧
        r =
          reportWith network record location.block (inputsFrom source network record) height f := by
  simp only [outcome_report, bind_eq_ok, mapError_eq_ok]
  constructor
  · intro h
    obtain ⟨height, hheight, f, hfee, hr⟩ := h
    exact ⟨height, f, hheight, hfee, (Except.ok.inj hr).symm⟩
  · intro h
    obtain ⟨height, f, hheight, hfee, hr⟩ := h
    exact ⟨height, hheight, f, hfee, congrArg Except.ok hr.symm⟩

/-- Whatever the replies, a report comes of what they say about the inputs and the height. -/
theorem succeeds_report {network : Network} {record : TxRecord} {location : Location}
    {t : List Line}
    {r : TransactionReport} :
    (report network record location).Succeeds t r ↔
      ∃ t₁ spent t₂ height f, t = t₁ ++ t₂ ∧
      (lookUpSpent (spentTxids record.inputs)).Succeeds t₁ spent ∧
        (confirmedHeight location).Succeeds t₂ height ∧
        fee (amountsIn (record.inputs.map (reportInput network spent))) (amountsOut record) =
          .ok f ∧
        r = reportWith network record location.block (record.inputs.map (reportInput network spent))
        height f := by
  simp only [report, reportInputs, concludeReport, succeeds_bind, succeeds_pure, succeeds_sound,
    map_value_report_outputs]
  constructor
  · intro h
    obtain ⟨_, _, _, rfl, ⟨t₁, spent, _, rfl, hspent, rfl, rfl⟩, t₂, height, _, rfl,
      hheight, _, f, _, rfl,
      ⟨rfl, hfee⟩, rfl, rfl⟩ := h
    exact ⟨t₁, spent, t₂, height, f, by simp only [List.append_nil], hspent, hheight, hfee, rfl⟩
  · intro h
    obtain ⟨t₁, spent, t₂, height, f, rfl, hspent, hheight, hfee, rfl⟩ := h
    exact ⟨t₁, _, t₂, rfl, ⟨t₁, spent, [], (List.append_nil t₁).symm, hspent, rfl, rfl⟩,
      t₂, height, [],
      (List.append_nil t₂).symm, hheight, [], f, [], rfl, ⟨rfl, hfee⟩, rfl, rfl⟩

end ChainLens.Explorer
