import ChainLens.Address.Basic
import ChainLens.Proofs.Script.Pushes

/-!
Witness programs: the operation of a version and one push of two to forty bytes, and nothing else.
Three forms of scripts are witness programs of a fixed version and length. No witness program is a
multisig script, since that needs an operation behind its pushes.
-/

namespace ChainLens.Script

def witnessVersion? (code : UInt8) : Option Nat := if code = 0x00 then some 0 else smallNumber? code

def witnessProgram? : Script → Option (Nat × Bytes)
  | code :: length :: program =>
    if length.toNat = program.length ∧ 2 ≤ program.length ∧ program.length ≤ 40 then
      (witnessVersion? code).map fun version => (version, program)
    else none
  | _ => none

theorem small_number_eq_some {code : UInt8} {n : Nat} (h : smallNumber? code = some n) :
    1 ≤ n ∧ n ≤ 16 ∧ code = UInt8.ofNat (0x50 + n) := by
  rw [smallNumber?] at h
  split at h
  · next hbounds =>
    have hlow : 0x51 ≤ code.toNat := UInt8.le_iff_toNat_le.mp hbounds.1
    have hhigh : code.toNat ≤ 0x60 := UInt8.le_iff_toNat_le.mp hbounds.2
    have hn : code.toNat - 0x50 = n := Option.some.inj h
    have hcode : code.toNat = 0x50 + n := by omega
    refine ⟨by omega, by omega, ?_⟩
    rw [← hcode, UInt8.ofNat_toNat]
  · cases h

/-- A version goes up to 16 and is stood for by its own operation. -/
theorem witness_version_eq_some {code : UInt8} {version : Nat} :
    witnessVersion? code = some version ↔ version ≤ 16 ∧
    code = Address.versionOperation version := by
  constructor
  · intro h
    rw [witnessVersion?] at h
    split at h
    · next hzero =>
      obtain rfl := Option.some.inj h
      exact ⟨Nat.zero_le 16, hzero⟩
    · obtain ⟨hlow, hhigh, hcode⟩ := small_number_eq_some h
      have hne : version ≠ 0 := by omega
      refine ⟨hhigh, ?_⟩
      rw [Address.versionOperation, if_neg hne, hcode]
  · intro h
    have hall : ∀ n ≤ 16, witnessVersion? (Address.versionOperation n) = some n := by decide
    rw [h.2]
    exact hall version h.1

/-- A script that begins with no version is no witness program. -/
theorem no_witness_program_of_first {first : UInt8} (h : witnessVersion? first = none)
    (rest : Script) :
    witnessProgram? (first :: rest) = none := by
  cases rest with
  | nil => rfl
  | cons length program =>
    rw [witnessProgram?, h]
    split <;> rfl

/-- A witness program is spelled as the script of a segwit address is. -/
theorem witness_program_eq_some {s : Script} {version : Nat} {program : Bytes} :
    witnessProgram? s = some (version, program) ↔
      version ≤ 16 ∧ 2 ≤ program.length ∧ program.length ≤ 40 ∧
        s = Address.versionOperation version :: UInt8.ofNat program.length :: program := by
  constructor
  · intro h
    unfold witnessProgram? at h
    split at h
    · split at h
      · next code length rest hlength =>
        obtain ⟨v, hversion, heq⟩ := Option.map_eq_some_iff.mp h
        obtain ⟨rfl, rfl⟩ := Prod.mk.inj heq
        obtain ⟨hle, hcode⟩ := witness_version_eq_some.mp hversion
        refine ⟨hle, hlength.2.1, hlength.2.2, ?_⟩
        rw [hcode, ← hlength.1, UInt8.ofNat_toNat]
      · cases h
    · cases h
  · intro h
    obtain ⟨hversion, hlow, hhigh, rfl⟩ := h
    have hlength : (UInt8.ofNat program.length).toNat = program.length :=
      UInt8.toNat_ofNat_of_lt' (Nat.lt_of_le_of_lt hhigh (by decide))
    rw [witnessProgram?, if_pos ⟨hlength, hlow, hhigh⟩, witness_version_eq_some.mpr ⟨hversion, rfl⟩]
    rfl

/-- The script of a version and a program that may stand in an address is a witness program. -/
theorem witness_program_of_fits {version : Nat} {program : Bytes}
    (h : Bech32.programFits version program = true) :
    witnessProgram? (Address.versionOperation version :: UInt8.ofNat program.length :: program) =
      some (version, program) := by
  obtain ⟨hversion, hlow, hhigh⟩ := Bech32.program_fits_bounds h
  exact witness_program_eq_some.mpr ⟨hversion, hlow, hhigh, rfl⟩

theorem instructions_single_push {program : Bytes} (h : program.length ≤ 75) :
    instructions (UInt8.ofNat program.length :: program) = [.push program] := by
  have htake : (PushForm.direct program.length).take? program = some (program, []) := by
    have hsplit := Decoder.split_append program []
    rwa [List.append_nil] at hsplit
  rw [instructions_taken (push_form_direct h) htake, instructions_nil]

/-- The first instruction of a witness program is its version, the second one pushes the program,
and there is no third. -/
theorem instructions_witness_program {s : Script} {version : Nat} {program : Bytes}
    (h : witnessProgram? s = some (version, program)) :
    instructions s =
      (if version = 0 then .push [] else .operation (Address.versionOperation version)) ::
        [.push program] := by
  obtain ⟨hversion, -, hhigh, rfl⟩ := witness_program_eq_some.mp h
  have hpush : instructions (UInt8.ofNat program.length :: program) = [.push program] :=
    instructions_single_push (Nat.le_trans hhigh (by decide))
  by_cases hzero : version = 0
  · -- version 0 is written as an empty push
    have htake : ∀ rest : Bytes, (PushForm.direct 0).take? rest = some ([], rest) := fun rest =>
      Decoder.split_append [] rest
    rw [if_pos hzero, hzero, ← hpush]
    have hform : pushForm? 0x00 = some (.direct 0) := push_form_direct (Nat.zero_le 75)
    exact instructions_taken hform (htake _)
  · have hall : ∀ n ≤ 16, n ≠ 0 → 78 < Address.versionOperation n := by decide
    rw [if_neg hzero, instructions_operation (hall version hversion hzero), hpush]

/-- A witness program has one push, and is no multisig script. -/
theorem not_multisig_of_witness_program {s : Script} {version : Nat} {program : Bytes}
    (h : witnessProgram? s = some (version, program)) : s.isMultisig = false := by
  rw [isMultisig, instructions_witness_program h]
  by_cases hzero : version = 0
  · rw [if_pos hzero]
  · rw [if_neg hzero]
    -- the list of keys is never closed
    cases hnumber : smallNumber? (Address.versionOperation version) with
    | none => simp only [hnumber]
    | some required => simp only [hnumber, closesMultisig]

end ChainLens.Script
