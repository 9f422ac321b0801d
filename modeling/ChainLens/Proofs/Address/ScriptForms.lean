import ChainLens.Address.Basic

/-!
The scripts that have an address are a fixed frame around a hash or a program, and the address has
kept what the frame holds.
-/

namespace ChainLens

def Template.test : Template → Script → Bool
  | .publicKey => Script.isPublicKey
  | .publicKeyHash => Script.isPublicKeyHash
  | .scriptHash => Script.isScriptHash
  | .witnessKeyHash => Script.isWitnessKeyHash
  | .witnessScriptHash => Script.isWitnessScriptHash
  | .taproot => Script.isTaproot
  | .multisig => Script.isMultisig
  | .nullData => Script.isNullData
  | .nonstandard => fun _ => true

/-- A script passes the test of its own form. -/
theorem Template.test_of (s : Script) : (Template.of s).test s = true := by
  unfold Template.of
  repeat' split
  all_goals first | assumption | rfl

/-- A script is null data by its first byte alone, since no other form begins with it. -/
theorem Template.of_eq_null_data_iff {s : Script} :
    Template.of s = .nullData ↔ s.head? = some 0x6a := by
  constructor
  · intro h
    have htest := Template.test_of s
    rw [h] at htest
    exact beq_iff_eq.mp htest
  · intro h
    obtain ⟨rest, rfl⟩ : ∃ rest, s = 0x6a :: rest := by
      cases s with
      | nil => cases h
      | cons first rest => exact ⟨rest, congrArg (· :: rest) (Option.some.inj h)⟩
    have hmultisig : Script.isMultisig (0x6a :: rest) = false := by
      rw [Script.isMultisig, Script.instructions]
      rfl
    simp [Template.of, Script.isPublicKeyHash, Script.isScriptHash, Script.isWitnessKeyHash,
      Script.isWitnessScriptHash, Script.isTaproot, Script.isPublicKey, hmultisig,
      Script.isNullData]

/-- A list with a known front and back is these two around what stands between them. -/
theorem eq_frame {α : Type} {s front back : List α} {n : Nat}
    (hlength : s.length = front.length + n + back.length)
    (hfront : s.take front.length = front) (hback : s.drop (front.length + n) = back) :
    front ++ (s.drop front.length).take n ++ back = s ∧
    ((s.drop front.length).take n).length = n := by
  constructor
  · calc
      front ++ (s.drop front.length).take n ++ back =
          s.take front.length ++
            ((s.drop front.length).take n ++ (s.drop front.length).drop n) := by
        rw [hfront, List.drop_drop, hback, List.append_assoc]
      _ = s := by rw [List.take_append_drop, List.take_append_drop]
  · rw [List.length_take, List.length_drop]
    omega

theorem eq_front {α : Type} {s front : List α} {n : Nat} (hlength : s.length = front.length + n)
    (hfront : s.take front.length = front) :
    front ++ s.drop front.length = s ∧ (s.drop front.length).length = n := by
  constructor
  · calc
      front ++ s.drop front.length = s.take front.length ++ s.drop front.length := by rw [hfront]
      _ = s := List.take_append_drop _ s
  · rw [List.length_drop]
    omega

namespace Script

/-- Such a script is its operations around twenty bytes. -/
theorem public_key_hash_frame {s : Script} (h : s.isPublicKeyHash = true) :
    [0x76, 0xa9, 0x14] ++ (s.drop 3).take 20 ++ [0x88, 0xac] = s ∧
    ((s.drop 3).take 20).length = 20 := by
  simp only [isPublicKeyHash, Bool.and_eq_true, beq_iff_eq] at h
  exact eq_frame h.1.1 h.1.2 h.2

theorem script_hash_frame {s : Script} (h : s.isScriptHash = true) :
    [0xa9, 0x14] ++ (s.drop 2).take 20 ++ [0x87] = s ∧ ((s.drop 2).take 20).length = 20 := by
  simp only [isScriptHash, Bool.and_eq_true, beq_iff_eq] at h
  exact eq_frame h.1.1 h.1.2 h.2

theorem witness_key_hash_front {s : Script} (h : s.isWitnessKeyHash = true) :
    [0x00, 0x14] ++ s.drop 2 = s ∧ (s.drop 2).length = 20 := by
  simp only [isWitnessKeyHash, Bool.and_eq_true, beq_iff_eq] at h
  exact eq_front h.1 h.2

theorem witness_script_hash_front {s : Script} (h : s.isWitnessScriptHash = true) :
    [0x00, 0x20] ++ s.drop 2 = s ∧ (s.drop 2).length = 32 := by
  simp only [isWitnessScriptHash, Bool.and_eq_true, beq_iff_eq] at h
  exact eq_front h.1 h.2

theorem taproot_front {s : Script} (h : s.isTaproot = true) :
    [0x51, 0x20] ++ s.drop 2 = s ∧ (s.drop 2).length = 32 := by
  simp only [isTaproot, Bool.and_eq_true, beq_iff_eq] at h
  exact eq_front h.1 h.2

end Script

namespace Address

/-- The hash or program has a length that the kind of address allows. -/
def Fits : Address → Prop
  | .publicKeyHash _ hash | .scriptHash _ hash => hash.length = 20
  | .witness _ version program => Bech32.programFits version program = true

theorem program_fits_of_known {version n : Nat} {program : Bytes} (hl : program.length = n)
    (hv : (version == 0 && (n == 20 || n == 32) || version == 1 && n == 32) = true) :
    Bech32.programFits version program = true := by
  rw [Bech32.programFits, hl]
  simp only [Bool.or_eq_true, Bool.and_eq_true, beq_iff_eq] at hv
  obtain ⟨rfl, rfl | rfl⟩ | ⟨rfl, rfl⟩ := hv <;> rfl

theorem witness_of_front {network : Network} {version n : Nat} {program s : Bytes}
    (hs : [versionOperation version, UInt8.ofNat n] ++ program = s ∧ program.length = n)
    (hv : (version == 0 && (n == 20 || n == 32) || version == 1 && n == 32) = true) :
    (witness network.zone version program).script = s ∧
    (witness network.zone version program).validOn network = true ∧
      (witness network.zone version program).Fits := by
  obtain ⟨hscript, hlength⟩ := hs
  refine ⟨?_, beq_self_eq_true _, program_fits_of_known hlength hv⟩
  rw [script, hlength]
  exact hscript

/-- The address of a script stands for that script and belongs to the network. -/
theorem of_script_eq_some {network : Network} {s : Script} {a : Address}
    (h : ofScript? network s = some a) :
    a.script = s ∧ a.validOn network = true ∧ a.Fits := by
  -- the form that was found has passed its own test, which tells the frame of the script
  have htest := Template.test_of s
  rw [ofScript?] at h
  split at h
  · rename_i hform
    rw [hform] at htest
    obtain ⟨hscript, hlength⟩ := Script.public_key_hash_frame htest
    cases h
    exact ⟨hscript, beq_self_eq_true _, hlength⟩
  · rename_i hform
    rw [hform] at htest
    obtain ⟨hscript, hlength⟩ := Script.script_hash_frame htest
    cases h
    exact ⟨hscript, beq_self_eq_true _, hlength⟩
  · rename_i hform
    rw [hform] at htest
    cases h
    exact witness_of_front (Script.witness_key_hash_front htest) rfl
  · rename_i hform
    rw [hform] at htest
    cases h
    exact witness_of_front (Script.witness_script_hash_front htest) rfl
  · rename_i hform
    rw [hform] at htest
    cases h
    exact witness_of_front (Script.taproot_front htest) rfl
  · cases h

/-- Scripts of the three witness forms have segwit addresses. -/
theorem of_script_witness_form (network : Network) {s : Script}
    (hform : Template.of s ∈ [.witnessKeyHash, .witnessScriptHash, .taproot]) :
    ∃ version program, ofScript? network s = some (witness network.zone version program) := by
  simp only [List.mem_cons, List.not_mem_nil, or_false] at hform
  obtain hform | hform | hform := hform
  · exact ⟨0, s.drop 2, by rw [ofScript?, hform]⟩
  · exact ⟨0, s.drop 2, by rw [ofScript?, hform]⟩
  · exact ⟨1, s.drop 2, by rw [ofScript?, hform]⟩

def payload? : Address → Option Bytes
  | .publicKeyHash isTest hash => some (keyHashByte isTest :: hash)
  | .scriptHash isTest hash => some (scriptHashByte isTest :: hash)
  | .witness _ _ _ => none

/-- Scripts of the two hash forms have addresses in base58. -/
theorem of_script_hash_form (network : Network) {s : Script}
    (hform : Template.of s ∈ [.publicKeyHash, .scriptHash]) :
    ∃ a payload, ofScript? network s = some a ∧ a.payload? = some payload := by
  simp only [List.mem_cons, List.not_mem_nil, or_false] at hform
  obtain hform | hform := hform
  · exact ⟨.publicKeyHash network.isTest ((s.drop 3).take 20), _, by rw [ofScript?, hform], rfl⟩
  · exact ⟨.scriptHash network.isTest ((s.drop 2).take 20), _, by rw [ofScript?, hform], rfl⟩

end Address
end ChainLens
