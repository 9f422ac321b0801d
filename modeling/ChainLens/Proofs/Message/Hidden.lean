import ChainLens.Message.Embedded
import ChainLens.Proofs.Address.ScriptForms
import ChainLens.Proofs.Message.Cipher
import ChainLens.Proofs.Script.Pushes
import Mathlib.Data.Option.Basic

/-!
Hidden messages. What hides a message in a transaction is said here without the search for it: the
first null-data output pushes the enciphered text, in whatever pieces. The search finds what is
hidden and nothing else.
-/

namespace ChainLens

namespace Message

/-- Data under the cipher whose key is a transaction id, in the order in which it is displayed. -/
def encipher (id : Txid) (data : Bytes) : Bytes := ((Arc4.ofKey id.bytes.reverse).apply data).1

/-- The output at place `k` has the script, which begins with `RETURN`, and no output before it
begins so. -/
structure Carries (outputs : List TxOutput) (k : Nat) (script : Script) : Prop where
  found : outputs[k]?.map TxOutput.script = some script
  returns : script.head? = some 0x6a
  first : ∀ j < k, ∀ output, outputs[j]? = some output → output.script.head? ≠ some 0x6a

def destination? (network : Network) (outputs : List TxOutput) (k : Nat) : Option String :=
  if k = 0 then none else outputs.head?.bind fun output => Script.address? network output.script

/-- A message is hidden in a transaction with these inputs and outputs. -/
inductive Hidden (network : Network) (inputs : List TxInput) (outputs : List TxOutput)
    (m : Message) : Prop
  | intro (first : TxInput) (k : Nat) (script : Script) (datas : List Bytes)
      (hfirst : inputs.head? = some first)
    (hspends : first.previousTxid ≠ Hash256.zero) (hcarries : Carries outputs k script)
    (hpushes : Script.Pushes script datas) (hlength : 9 ≤ datas.flatten.length)
    (htext : datas.flatten = encipher first.previousTxid ("CNTRPRTY".toUTF8.toList ++ m.payload))
    (hdestination : m.destination = destination? network outputs k)

theorem signature_eq : signature = "CNTRPRTY".toUTF8.toList := by decide +kernel

theorem encipher_encipher (id : Txid) (data : Bytes) : encipher id (encipher id data) = data :=
  Arc4.apply_apply _ data

theorem length_encipher (id : Txid) (data : Bytes) : (encipher id data).length = data.length :=
  Arc4.length_apply _ data

/-- Enciphering undoes itself. -/
theorem encipher_eq_iff {id : Txid} {data plain : Bytes} :
    encipher id data = plain ↔ data = encipher id plain := by
  constructor
  · intro h
    rw [← h, encipher_encipher]
  · intro h
    rw [h, encipher_encipher]

/-- The carrier is the first output whose script begins with `RETURN`. -/
theorem carrier_eq_some_iff {outputs : List TxOutput} {k : Nat} {script : Script} :
    carrier? outputs = some (k, script) ↔ Carries outputs k script := by
  simp only [carrier?, Option.map_eq_some_iff, List.find?_eq_some_iff_getElem, Prod.mk.injEq,
    Prod.exists, List.getElem_zipIdx, List.length_zipIdx, Nat.zero_add, decide_eq_true_eq,
    Bool.not_eq_true', decide_eq_false_iff_not, Template.of_eq_null_data_iff]
  constructor
  · intro h
    obtain ⟨output, _, ⟨hreturns, i, hi, ⟨rfl, rfl⟩, hbefore⟩, rfl, rfl⟩ := h
    refine { found := by rw [List.getElem?_eq_getElem hi, Option.map_some], returns := hreturns,
             first := ?_ }
    intro j hj earlier hearlier
    obtain ⟨_, rfl⟩ := List.getElem?_eq_some_iff.mp hearlier
    exact hbefore j hj
  · intro h
    obtain ⟨output, houtput, rfl⟩ := Option.map_eq_some_iff.mp h.found
    obtain ⟨hk, rfl⟩ := List.getElem?_eq_some_iff.mp houtput
    refine ⟨outputs[k], k, ⟨h.returns, k, hk, ⟨rfl, rfl⟩, ?_⟩, rfl, rfl⟩
    intro j hj
    exact h.first j hj _ (List.getElem?_eq_getElem (Nat.lt_trans hj hk))

theorem unsigned_eq_some_iff {plain payload : Bytes} :
    unsigned? plain = some payload ↔ plain = signature ++ payload := by
  rw [unsigned?]
  constructor
  · intro h
    split at h
    · next hprefix =>
      obtain ⟨rest, rfl⟩ := List.isPrefixOf_iff_prefix.mp hprefix
      rw [List.drop_left] at h
      rw [Option.some.inj h]
    · cases h
  · intro h
    have hprefix : signature.isPrefixOf plain = true := by
      rw [List.isPrefixOf_iff_prefix, h]
      exact List.prefix_append signature payload
    rw [if_pos hprefix, h, List.drop_left]

/-- The stages of the search, all of which have to be passed. -/
theorem find_eq_some_iff {network : Network} {inputs : List TxInput} {outputs : List TxOutput}
    {m : Message} :
    find? network inputs outputs = some m ↔
      ∃ first k script, inputs.head? = some first ∧ first.previousTxid ≠ Hash256.zero ∧
      Carries outputs k script ∧
        9 ≤ (Script.pushedData script).length ∧
        Script.pushedData script = encipher first.previousTxid (signature ++ m.payload) ∧
        m.destination = destination? network outputs k := by
  simp only [find?, Option.bind_eq_bind, Option.bind_eq_some_iff, Option.guard_eq_some',
    Bool.not_eq_true', decide_eq_false_iff_not, TxInput.isCoinbase, Prod.exists,
    carrier_eq_some_iff, unsigned_eq_some_iff]
  constructor
  · intro h
    obtain ⟨first, hfirst, -, hspends, k, script, hcarries, -, hlength, payload, htext, hm⟩ := h
    obtain rfl := Option.some.inj hm
    exact ⟨first, k, script, hfirst, hspends, hcarries, hlength, encipher_eq_iff.mp htext, rfl⟩
  · intro h
    obtain ⟨first, k, script, hfirst, hspends, hcarries, hlength, htext, hdestination⟩ := h
    refine ⟨first, hfirst, (), hspends, k, script, hcarries, (), hlength, m.payload,
      encipher_eq_iff.mpr htext, ?_⟩
    rw [← destination?, ← hdestination]
    rfl

/-- The search finds a message just where one is hidden. A payload that is not empty is found whole,
in whatever row of pushes the enciphered text was laid. -/
theorem hidden_messages_are_found (network : Network) (inputs : List TxInput)
    (outputs : List TxOutput) :
    (∀ m, find? network inputs outputs = some m ↔ Hidden network inputs outputs m) ∧
      ∀ first payload datas row k, inputs.head? = some first → first.previousTxid ≠ Hash256.zero →
      payload ≠ [] →
        datas.flatten = encipher first.previousTxid ("CNTRPRTY".toUTF8.toList ++ payload) →
        List.Forall₂ Script.IsPush datas row → Carries outputs k (0x6a :: row.flatten) →
        find? network inputs outputs =
          some { destination := destination? network outputs k, payload } := by
  have hfound (m : Message) : find? network inputs outputs = some m ↔
      Hidden network inputs outputs m := by
    rw [find_eq_some_iff, signature_eq]
    constructor
    · intro h
      obtain ⟨first, k, script, hfirst, hspends, hcarries, hlength, htext, hdestination⟩ := h
      -- Every script is a row of pushes by the rules, which is what turns the reader's data into a
      -- row of data.
      obtain ⟨datas, hpushes⟩ := Script.exists_pushes script
      rw [Script.pushed_data_of_pushes hpushes] at hlength htext
      exact .intro first k script datas hfirst hspends hcarries hpushes hlength htext hdestination
    · intro h
      obtain ⟨first, k, script, datas, hfirst, hspends, hcarries, hpushes, hlength, htext,
          hdestination⟩ := h
      rw [← Script.pushed_data_of_pushes hpushes] at hlength htext
      exact ⟨first, k, script, hfirst, hspends, hcarries, hlength, htext, hdestination⟩
  refine ⟨hfound, ?_⟩
  intro first payload datas row k hfirst hspends hpayload htext hrow hcarries
  have hpushes : Script.Pushes (0x6a :: row.flatten) datas :=
    .operation (by decide) (Script.pushes_of_row hrow)
  have hlength : 9 ≤ datas.flatten.length := by
    have hpositive := List.length_pos_of_ne_nil hpayload
    have height : "CNTRPRTY".toUTF8.toList.length = 8 := by
      rw [← signature_eq]
      rfl
    rw [htext, length_encipher, List.length_append, height]
    omega
  exact (hfound _).mpr (.intro first k _ datas hfirst hspends hcarries hpushes hlength htext rfl)

def sixesInput : TxInput := ⟨⟨List.replicate 32 0x66, rfl⟩, 0, [], 0xffffffff, []⟩

def oneByteText : Bytes := encipher sixesInput.previousTxid ("CNTRPRTY".toUTF8.toList ++ [0x14])

/-- Three bytes of the text stand in a push of their own, the other six in one with a count. -/
def oneByteRow : List Bytes := [[3] ++ oneByteText.take 3, [76, 6] ++ oneByteText.drop 3]

def oneByteOutputs : List TxOutput :=
  [⟨5430, [0x00, 0x14] ++ List.replicate 20 7⟩, ⟨0, 0x6a :: oneByteRow.flatten⟩]

theorem one_byte_row :
    List.Forall₂ Script.IsPush [oneByteText.take 3, oneByteText.drop 3] oneByteRow := by
  have hlength : oneByteText.length = 9 := by
    rw [oneByteText, length_encipher, ← signature_eq]
    rfl
  have hthree : (oneByteText.take 3).length = 3 := by
    rw [List.length_take, hlength]
    rfl
  have hsix : (oneByteText.drop 3).length = 6 := by rw [List.length_drop, hlength]
  have hdirect : Script.IsPush (oneByteText.take 3) _ := .direct (by omega)
  have hcounted : Script.IsPush (oneByteText.drop 3) _ :=
    .counted 76 1 (by decide) (by rw [hsix]; decide)
  rw [hthree] at hdirect
  rw [hsix] at hcounted
  exact .cons hdirect (.cons hcounted .nil)

/-- A message whose text comes in two pushes. -/
theorem hidden_messages_are_found_in_two_pieces :
    find? .regtest [sixesInput] oneByteOutputs =
      some { destination := some "bcrt1qqurswpc8qurswpc8qurswpc8qurswpc8dxm0gk",
             payload := [0x14] } := by
  have htext : [oneByteText.take 3, oneByteText.drop 3].flatten =
      encipher sixesInput.previousTxid ("CNTRPRTY".toUTF8.toList ++ [0x14]) := by
    rw [List.flatten_cons, List.flatten_singleton, List.take_append_drop, oneByteText]
  have hcarries : Carries oneByteOutputs 1 (0x6a :: oneByteRow.flatten) := by
    refine { found := rfl, returns := rfl, first := ?_ }
    intro j hj output houtput
    obtain rfl : j = 0 := by omega
    obtain rfl := Option.some.inj houtput
    decide
  have haddress : destination? .regtest oneByteOutputs 1 =
      some "bcrt1qqurswpc8qurswpc8qurswpc8qurswpc8dxm0gk" := by
    change Script.address? .regtest ([0x00, 0x14] ++ List.replicate 20 7) = _
    decide +kernel
  have hfound := (hidden_messages_are_found .regtest [sixesInput]
    oneByteOutputs).2 _ [0x14] _ _ 1 rfl (by decide) (by decide) htext one_byte_row hcarries
  rw [haddress] at hfound
  exact hfound

end Message
end ChainLens
