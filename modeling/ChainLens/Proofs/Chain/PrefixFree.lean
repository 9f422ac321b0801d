import ChainLens.Proofs.Chain.BlockForm
import ChainLens.Proofs.Chain.RecordRoundTrip
import ChainLens.Proofs.Encoding.Consumption

/-!
Where serialized transactions and blocks end. Their readers are steady, whichever of the two forms a
transaction has, so bytes that are accepted are not accepted when they are cut short, nor when
something stands behind them. Bytes that were cut short never pass for another fault: what is told
of them is that they ended.
-/

namespace ChainLens

open Decoder

theorem TxInput.steady : TxInput.decoder.Steady := by
  apply steady_hash256.bind
  intro previousTxid
  apply steady_word32.bind
  intro previousIndex
  apply steady_counted_bytes.bind
  intro scriptSig
  apply steady_word32.bind
  intro sequence
  exact .pure _

theorem TxOutput.steady : TxOutput.decoder.Steady := by
  apply steady_word64.bind
  intro value
  apply steady_counted_bytes.bind
  intro script
  exact .pure _

namespace Witness

/-- The elements of a witness are the same whatever follows them. -/
theorem steady_elements (count used left : Nat) : (elements count used left).Steady := by
  induction left generalizing used with
  | zero => exact .pure []
  | succ left ih =>
    apply steady_compact_size.bind
    intro length
    -- room is reserved by the length alone, before the element is looked at
    apply (Steady.lift (reserve count used length)).bind
    intro _
    apply (steady_exactly length).bind
    intro element
    apply (ih _).bind
    intro others
    exact .pure (element :: others)

theorem steady : Witness.decoder.Steady := by
  apply steady_compact_size.bind
  intro count
  exact .check (steady_elements count 0 count)

end Witness

namespace Transaction

theorem steady_attach_witnesses (bare : List TxInput) : (attachWitnesses bare).Steady := by
  induction bare with
  | nil => exact .pure []
  | cons input rest ih =>
    apply Witness.steady.bind
    intro witness
    apply ih.bind
    intro others
    exact .pure _

theorem steady_witness_body (version : Int32) : (witnessBody version).Steady := by
  apply TxInput.steady.counted.bind
  intro bare
  apply TxOutput.steady.counted.bind
  intro outputs
  apply (steady_attach_witnesses bare).bind
  intro inputs
  apply Steady.check
  apply steady_word32.bind
  intro lockTime
  exact .pure _

/-- The marker that sends the reader to the other form is one of the bytes taken, so no later byte
changes the form. -/
theorem steady : Transaction.decoder.Steady := by
  apply steady_signed32.bind
  intro version
  apply TxInput.steady.counted.bind
  intro inputs
  apply Steady.ite
  · apply steady_byte.bind
    intro flag
    exact .ite (steady_witness_body version) (.throw (.badFlag flag))
  · apply TxOutput.steady.counted.bind
    intro outputs
    apply steady_word32.bind
    intro lockTime
    exact .pure _

end Transaction

theorem Header.steady : Header.decoder.Steady := by
  apply steady_signed32.bind
  intro version
  apply steady_hash256.bind
  intro previous
  apply steady_hash256.bind
  intro merkleRoot
  apply steady_word32.bind
  intro time
  apply steady_word32.bind
  intro bits
  apply steady_word32.bind
  intro nonce
  exact .pure _

/-- A block is the same whatever follows it. -/
theorem Block.steady : Block.decoder.Steady := by
  apply Header.steady.bind
  intro header
  apply Transaction.steady.counted.bind
  intro transactions
  exact .pure _

theorem TxRecord.read_of_error {bytes : Bytes} {e : DecodeError}
    (h : Transaction.decode bytes = .error e) :
    TxRecord.read bytes = .error (.transaction e) := by
  rw [TxRecord.read, h]

theorem Block.read_of_error {bytes : Bytes} {e : DecodeError} (h : Block.decode bytes = .error e) :
    Block.read bytes = .error (.block e) := by
  rw [Block.read, h]

/-- Bytes of which nothing can be left out at the end, and to which nothing can be added. -/
structure EndsExactly {α : Type} (read : Bytes → Except Flaw α) (flaw : DecodeError → Flaw)
    (bytes : Bytes) :
    Prop where
  cut : ∀ front, front <+: bytes → front ≠ bytes → read front = .error (flaw .ended)
  continued : ∀ more, more ≠ [] → read (bytes ++ more) = .error (flaw .trailing)

/-- A reader ends exactly where its decoder is steady. -/
theorem Decoder.Steady.ends_exactly {α β : Type} {d : Decoder α} (h : d.Steady)
    {read : Bytes → Except Flaw β}
    {flaw : DecodeError → Flaw} (hread : ∀ bytes e, d.decodeAll bytes = .error e →
      read bytes = .error (flaw e))
    {bytes : Bytes} {a : α} (hwhole : d.decodeAll bytes = .ok a) : EndsExactly read flaw bytes where
  cut front hfront hproper := by
    obtain ⟨more, rfl⟩ := hfront
    have hmore : more ≠ [] := by
      rintro rfl
      exact hproper (List.append_nil front).symm
    exact hread front .ended (h.decode_all_front hwhole hmore)
  continued more hmore := hread (bytes ++ more) .trailing (h.decode_all_append hwhole hmore)

/-- No accepted bytes are the beginning of others. Cut anywhere, they are malformed for having
ended; continued by anything, for what remains. -/
theorem accepted_bytes_are_prefix_free (bytes : Bytes) :
    (∀ r, TxRecord.read bytes = .ok r → EndsExactly TxRecord.read Flaw.transaction bytes) ∧
      ∀ b, Block.read bytes = .ok b → EndsExactly Block.read Flaw.block bytes := by
  constructor
  · intro r hr
    obtain ⟨t, ht, -⟩ := TxRecord.read_eq_ok.mp hr
    exact Transaction.steady.ends_exactly (fun _ _ => TxRecord.read_of_error) ht
  · intro b hb
    exact Block.steady.ends_exactly (fun _ _ => Block.read_of_error) (Block.read_eq_ok.mp hb)

/-- A block of two transactions, one with a witness and one without inputs. -/
def pairBlock : Block where
  header := ⟨1, Hash256.zero, Hash256.zero, 7, 0x1d00ffff, 9⟩
  transactions := [TxRecord.twoElements, ⟨2, [], [], 0⟩]

def pairBlockBytes : Bytes :=
  [1, 0, 0, 0] ++ List.replicate 64 0 ++ [7, 0, 0, 0, 255, 255, 0, 29, 9, 0, 0, 0, 2] ++
    TxRecord.twoElementsBytes ++
  [2, 0, 0, 0, 0, 1, 0, 0, 0, 0, 0, 0]

theorem decode_pair_block : Block.decode pairBlockBytes = .ok pairBlock := by rfl

theorem accepted_bytes_are_prefix_free_in_a_pair :
    (∃ r, TxRecord.read TxRecord.twoElementsBytes = .ok r) ∧
    (∃ b, Block.read pairBlockBytes = .ok b) ∧
      TxRecord.read (TxRecord.twoElementsBytes.take 61) = .error (.transaction .ended) ∧
      TxRecord.read (TxRecord.twoElementsBytes ++ [0]) = .error (.transaction .trailing) ∧
      (∀ n < pairBlockBytes.length, Block.read (pairBlockBytes.take n) = .error (.block .ended)) ∧
      Block.read (pairBlockBytes ++ [0]) = .error (.block .trailing) := by
  have ht : TxRecord.read TxRecord.twoElementsBytes =
      .ok (TxRecord.describe TxRecord.twoElements TxRecord.twoElementsBytes) := by rfl
  have hb : Block.read pairBlockBytes = .ok pairBlock := Block.read_eq_ok.mpr decode_pair_block
  have htx := (accepted_bytes_are_prefix_free TxRecord.twoElementsBytes).1 _ ht
  have hblock := (accepted_bytes_are_prefix_free pairBlockBytes).2 _ hb
  have hfront (n : Nat) (bytes : Bytes) : bytes.take n <+: bytes := List.take_prefix n bytes
  refine ⟨⟨_, ht⟩, ⟨_, hb⟩, htx.cut _ (hfront 61 _) (by decide), htx.continued [0] (by decide), ?_,
    hblock.continued [0] (by decide)⟩
  intro n hn
  apply hblock.cut _ (hfront n _)
  intro hwhole
  have hlength := congrArg List.length hwhole
  rw [List.length_take] at hlength
  omega

end ChainLens
