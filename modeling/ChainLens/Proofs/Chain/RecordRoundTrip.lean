import ChainLens.Proofs.Chain.TransactionForms

/-!
Records of transactions against their bytes. A transaction is recorded alike from its bytes and from
its value: bytes that are accepted are the written form of what was read, and what is written within
the limits is accepted.
-/

namespace ChainLens

theorem Transaction.decode_eq_ok {bytes : Bytes} {t : Transaction} :
    Transaction.decode bytes = .ok t ↔ t.Readable ∧ bytes = t.encode :=
  Transaction.reads.decode_all_eq_ok

namespace TxRecord

/-- A record is read of the bytes of a transaction, and describes it. -/
theorem read_eq_ok {bytes : Bytes} {r : TxRecord} :
    read bytes = .ok r ↔ ∃ t, Transaction.decode bytes = .ok t ∧ describe t bytes = r := by
  cases hd : Transaction.decode bytes with
  | error e => simp [read, hd]
  | ok t => simp [read, hd]

/-- A transaction within the limits has the same record through its bytes. -/
theorem read_encode {t : Transaction} (ht : t.Readable) : read t.encode = .ok (ofTransaction t) :=
  read_eq_ok.mpr ⟨t, Transaction.decode_eq_ok.mpr ⟨ht, rfl⟩, rfl⟩

/-- No transaction has two written forms that are accepted, and its record is the same from either
side. -/
theorem encode_of_read {bytes : Bytes} {r : TxRecord} (h : read bytes = .ok r) :
    ∃ t, Transaction.decode bytes = .ok t ∧ t.encode = bytes ∧ ofTransaction t = r := by
  obtain ⟨t, ht, rfl⟩ := read_eq_ok.mp h
  obtain ⟨-, rfl⟩ := Transaction.decode_eq_ok.mp ht
  exact ⟨t, ht, rfl, rfl⟩

/-- One input with a witness of two elements, the second of them empty. -/
def twoElements : Transaction where
  version := 2
  inputs := [⟨⟨List.replicate 32 7, rfl⟩, 5, [], 0xffffffff, [[0x30, 0x31], []]⟩]
  outputs := [⟨1000, [0x51]⟩]
  lockTime := 9

def twoElementsBytes : Bytes :=
  [2, 0, 0, 0, 0, 1, 1] ++ List.replicate 32 7 ++ [5, 0, 0, 0, 0, 255, 255, 255, 255, 1] ++
  [232, 3, 0, 0, 0, 0, 0, 0, 1, 0x51] ++ [2, 2, 0x30, 0x31, 0] ++ [9, 0, 0, 0]

theorem encode_of_read_two_elements :
    read twoElementsBytes = .ok (describe twoElements twoElementsBytes) ∧
      ∃ t, Transaction.decode twoElementsBytes = .ok t ∧ t.encode = twoElementsBytes ∧
        ofTransaction t = describe twoElements twoElementsBytes := by
  have hd : Transaction.decode twoElementsBytes = .ok twoElements := by rfl
  have h : read twoElementsBytes = .ok (describe twoElements twoElementsBytes) := by rw [read, hd]
  exact ⟨h, encode_of_read h⟩

/-- What is written is read back with all its fields just when the counts have 64 bits and every
witness fits. -/
theorem read_encode_iff (t : Transaction) :
    (∃ r, read t.encode = .ok r ∧ r = ofTransaction t ∧ r.inputs = t.inputs ∧
      r.outputs = t.outputs ∧
        r.version = t.version ∧ r.lockTime = t.lockTime) ↔
      t.Countable ∧ ∀ input ∈ t.inputs, input.witness.Fits := by
  constructor
  · intro hread
    obtain ⟨r, hr, -, hi, ho, hv, hl⟩ := hread
    obtain ⟨u, hu, rfl⟩ := read_eq_ok.mp hr
    -- the fields of the record are those of the transaction that was read
    have htu : u = t := by
      obtain ⟨version, inputs, outputs, lockTime⟩ := u
      obtain ⟨version', inputs', outputs', lockTime'⟩ := t
      simp only [describe] at hi ho hv hl
      rw [hi, ho, hv, hl]
    have ht := (Transaction.decode_eq_ok.mp hu).1
    rw [htu] at ht
    exact ⟨ht.toCountable, ht.witnesses⟩
  · intro hlimits
    obtain ⟨hc, hw⟩ := hlimits
    exact ⟨ofTransaction t, read_encode { hc with witnesses := hw }, rfl, rfl, rfl, rfl, rfl⟩

end TxRecord
end ChainLens
