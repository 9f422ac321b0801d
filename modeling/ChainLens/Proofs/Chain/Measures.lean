import ChainLens.Proofs.Chain.RecordRoundTrip
import ChainLens.Proofs.Chain.Sizes
import Mathlib.Order.Bounds.Basic

/-!
Ids and sizes of a record against its bytes. They are computed from the fields of a transaction, and
they are what is found by hashing and counting: the bytes themselves, and the plain form that leaves
the witnesses out. Without a witness the two forms are one, unless there are no inputs, whose only
form has a marker and a flag.
-/

namespace ChainLens

/-- The virtual size is the least number that is a quarter of the weight or more. -/
theorem virtual_size_least (weight : Nat) : IsLeast {v | weight ≤ 4 * v} (virtualSize weight) := by
  constructor
  · show weight ≤ 4 * ((weight + 3) / 4)
    omega
  · intro v hv
    change weight ≤ 4 * v at hv
    rw [virtualSize]
    omega

namespace Transaction

def stripped (t : Transaction) : Transaction := { t with inputs := t.inputs.map TxInput.bare }

theorem encode_plain_stripped (t : Transaction) : t.stripped.encodePlain = t.encodePlain := by
  have hinputs : t.stripped.encodeInputs = t.encodeInputs := encode_bare_inputs t.inputs
  rw [encodePlain, encodePlain, hinputs]
  rfl

theorem base_size_le (t : Transaction) : t.baseSize ≤ t.totalSize := by
  rw [totalSize]
  split
  · omega
  · exact Nat.le_refl _

/-- A transaction with inputs and without a witness is written in the plain form. -/
theorem uses_plain_form_of_inputs {t : Transaction} (hwitness : t.hasWitness = false)
    (hinputs : t.inputs ≠ []) :
    t.usesWitnessForm = false := by
  rw [usesWitnessForm, hwitness, Bool.false_or, List.isEmpty_eq_false_iff]
  exact hinputs

/-- Without inputs there are no witnesses, but marker and flag are written. -/
theorem total_size_of_no_inputs {t : Transaction} (hinputs : t.inputs = []) :
    t.totalSize = t.baseSize + 2 := by
  have hform : t.usesWitnessForm = true := by simp [usesWitnessForm, hinputs]
  rw [totalSize, if_pos hform, hinputs]
  rfl

end Transaction

namespace TxRecord

def transaction (r : TxRecord) : Transaction :=
  { version := r.version, inputs := r.inputs, outputs := r.outputs, lockTime := r.lockTime }

/-- The ids and sizes of a record are those of its bytes and of the plain form of its
transaction. -/
structure Measures (r : TxRecord) (bytes : Bytes) : Prop where
  size : r.size = bytes.length
  baseSize : r.baseSize = r.transaction.encodePlain.length
  wtxid : r.wtxid = Hash256.double bytes
  txid : r.txid = Hash256.double r.transaction.encodePlain
  base_le : r.baseSize ≤ r.size
  weight : r.weight = 3 * r.baseSize + r.size
  /-- The weight has 64 bits as long as four times the length has, and no memory holds a string that
  is longer. -/
  weight_lt : 4 * bytes.length < UInt64.size → r.weight < UInt64.size
  vsize : IsLeast {v | r.weight ≤ 4 * v} r.vsize

/-- No byte weighs less than any other. -/
structure Undiscounted (r : TxRecord) : Prop where
  wtxid : r.wtxid = r.txid
  baseSize : r.baseSize = r.size
  weight : r.weight = 4 * r.size
  vsize : r.vsize = r.size

/-- What a record says of sizes are the sizes of its bytes. -/
theorem measures_of_describe (t : Transaction) : (describe t t.encode).Measures t.encode := by
  have hsize : (describe t t.encode).size = t.encode.length := t.length_encode.symm
  have hbase : (describe t t.encode).baseSize = t.encodePlain.length := t.length_encode_plain.symm
  have hle : (describe t t.encode).baseSize ≤ (describe t t.encode).size := t.base_size_le
  have hweight : (describe t t.encode).weight = 3 * (describe t t.encode).baseSize +
      (describe t t.encode).size := rfl
  refine { size := hsize, baseSize := hbase, wtxid := rfl, txid := rfl, base_le := hle,
           weight := hweight, weight_lt := ?_, vsize := virtual_size_least _ }
  intro hlength
  omega

/-- Whatever bytes are accepted, ids and sizes are found by hashing and counting. Witnesses do not
enter into the id and the base size. -/
theorem records_measure_bytes {bytes : Bytes} {r : TxRecord} (h : read bytes = .ok r) :
    r.Measures bytes ∧
      ∀ bytes' r', read bytes' = .ok r' → r'.transaction.stripped = r.transaction.stripped →
        r'.txid = r.txid ∧ r'.baseSize = r.baseSize := by
  have hmeasures {b : Bytes} {s : TxRecord} (hs : read b = .ok s) : s.Measures b := by
    obtain ⟨t, ht, rfl⟩ := read_eq_ok.mp hs
    obtain ⟨-, rfl⟩ := Transaction.decode_eq_ok.mp ht
    exact measures_of_describe t
  refine ⟨hmeasures h, ?_⟩
  intro bytes' r' h' hstripped
  have hplain : r'.transaction.encodePlain = r.transaction.encodePlain := by
    rw [← r'.transaction.encode_plain_stripped, hstripped, Transaction.encode_plain_stripped]
  rw [(hmeasures h').txid, (hmeasures h').baseSize, hplain, (hmeasures h).txid,
    (hmeasures h).baseSize]
  exact ⟨rfl, rfl⟩

def oneElementBytes : Bytes :=
  [2, 0, 0, 0, 0, 1, 1] ++ List.replicate 32 7 ++ [5, 0, 0, 0, 0, 255, 255, 255, 255, 1] ++
  [232, 3, 0, 0, 0, 0, 0, 0, 1, 0x51] ++ [1, 1, 0x32] ++ [9, 0, 0, 0]

/-- Another witness leaves the id and the base size as they are. -/
theorem records_measure_bytes_two_elements :
    ∃ r r', read twoElementsBytes = .ok r ∧ read oneElementBytes = .ok r' ∧
    r.Measures twoElementsBytes ∧
      r'.txid = r.txid ∧ r'.baseSize = r.baseSize ∧ r.size = 68 ∧ r'.size = 66 := by
  obtain ⟨r, hr, hsize, hstripped⟩ : ∃ r, read twoElementsBytes = .ok r ∧ r.size = 68 ∧
      r.transaction.stripped = twoElements.stripped := ⟨_, rfl, rfl, rfl⟩
  obtain ⟨r', hr', hsize', hstripped'⟩ : ∃ r', read oneElementBytes = .ok r' ∧ r'.size = 66 ∧
      r'.transaction.stripped = twoElements.stripped := ⟨_, rfl, rfl, rfl⟩
  obtain ⟨hmeasures, hsame⟩ := records_measure_bytes hr
  obtain ⟨htxid, hbase⟩ := hsame oneElementBytes r' hr' (hstripped'.trans hstripped.symm)
  exact ⟨r, r', hr, hr', hmeasures, htxid, hbase, hsize, hsize'⟩

/-- With inputs and no witness the plain form is written, which has no discount. -/
theorem undiscounted_of_inputs {t : Transaction} (bytes : Bytes) (hwitness : t.hasWitness = false)
    (hinputs : t.inputs ≠ []) : (describe t bytes).Undiscounted := by
  have hform : t.usesWitnessForm = false := Transaction.uses_plain_form_of_inputs hwitness hinputs
  have hencode : t.encode = t.encodePlain := by
    rw [Transaction.encode, hform]
    rfl
  have htotal : t.totalSize = t.baseSize := by
    rw [Transaction.totalSize, hform]
    rfl
  refine { wtxid := congrArg Hash256.double hencode, baseSize := htotal.symm, weight := ?_,
           vsize := ?_ }
  · change ChainLens.weight t.baseSize t.totalSize = 4 * t.totalSize
    rw [ChainLens.weight, htotal]
    omega
  · change virtualSize (ChainLens.weight t.baseSize t.totalSize) = t.totalSize
    rw [virtualSize, ChainLens.weight, htotal]
    omega

/-- Without a witness there is no discount just when there are inputs. A transaction without inputs
is discounted for its marker and its flag, which the base size leaves out. -/
theorem no_witness_no_discount {bytes : Bytes} {r : TxRecord} (h : read bytes = .ok r)
    (hwitness : r.hasWitness = false) :
    (r.Undiscounted ↔ r.inputs ≠ []) ∧
      (r.inputs = [] → r.size = r.baseSize + 2 ∧ r.weight = 4 * r.baseSize + 2 ∧
        r.vsize = r.baseSize + 1) := by
  obtain ⟨t, -, rfl⟩ := read_eq_ok.mp h
  have hnone (hinputs : t.inputs = []) : t.totalSize = t.baseSize + 2 :=
    Transaction.total_size_of_no_inputs hinputs
  refine ⟨⟨?_, undiscounted_of_inputs bytes hwitness⟩, ?_⟩
  · intro hundiscounted hinputs
    have hsame : t.baseSize = t.totalSize := hundiscounted.baseSize
    have hmore := hnone hinputs
    omega
  · intro hinputs
    change t.totalSize = t.baseSize + 2 ∧ ChainLens.weight t.baseSize t.totalSize =
        4 * t.baseSize + 2 ∧
      virtualSize (ChainLens.weight t.baseSize t.totalSize) = t.baseSize + 1
    rw [virtualSize, ChainLens.weight, hnone hinputs]
    omega

def noElementBytes : Bytes :=
  [2, 0, 0, 0, 1] ++ List.replicate 32 7 ++ [5, 0, 0, 0, 0, 255, 255, 255, 255, 1] ++
  [232, 3, 0, 0, 0, 0, 0, 0, 1, 0x51] ++ [9, 0, 0, 0]

theorem no_witness_no_discount_one_input :
    ∃ r, read noElementBytes = .ok r ∧ r.hasWitness = false ∧ r.inputs ≠ [] ∧ r.Undiscounted := by
  obtain ⟨r, hr, hwitness, hinputs⟩ : ∃ r, read noElementBytes = .ok r ∧ r.hasWitness = false ∧
      r.inputs ≠ [] :=
    ⟨_, rfl, rfl, List.cons_ne_nil _ _⟩
  exact ⟨r, hr, hwitness, hinputs, (no_witness_no_discount hr hwitness).1.mpr hinputs⟩

def noInputsBytes : Bytes := [2, 0, 0, 0, 0, 1, 0, 0, 0, 0, 0, 0]

/-- Without inputs the witness form is written for want of a witness, and two bytes are
discounted. -/
theorem no_witness_yet_discounted :
    ∃ r, read noInputsBytes = .ok r ∧ r.hasWitness = false ∧ r.wtxid ≠ r.txid ∧
      r.baseSize = 10 ∧ r.size = 12 ∧ r.weight = 42 ∧ r.vsize = 11 := by
  refine ⟨_, rfl, rfl, ?_, rfl, rfl, rfl, rfl⟩
  decide +kernel

end TxRecord
end ChainLens
