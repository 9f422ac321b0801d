import ChainLens.Proofs.Address.ScriptForms
import ChainLens.Proofs.Script.WitnessPrograms

/-!
No script satisfies the tests of two forms, so the forms may be tried in any order. The first byte
of a script tells the forms apart but for two pairs of them: witness hashes, which differ in length,
and taproot and multisig, which differ in what follows the push.
-/

namespace ChainLens
namespace Script

/-- What stands behind a version and a length is a program that an address may have. -/
theorem witness_program_of_front {s : Script} {version n : Nat}
    (hs : [Address.versionOperation version, UInt8.ofNat n] ++ s.drop 2 = s ∧ (s.drop 2).length = n)
    (hv : (version == 0 && (n == 20 || n == 32) || version == 1 && n == 32) = true) :
    witnessProgram? s = some (version, s.drop 2) ∧
    Bech32.programFits version (s.drop 2) = true := by
  obtain ⟨hfront, hlength⟩ := hs
  have hspelled : Address.versionOperation version :: UInt8.ofNat n :: s.drop 2 = s := hfront
  have hfits := Address.program_fits_of_known hlength hv
  have hprogram := witness_program_of_fits hfits
  rw [hlength, hspelled] at hprogram
  exact ⟨hprogram, hfits⟩

theorem witness_program_of_key_hash {s : Script} (h : s.isWitnessKeyHash = true) :
    witnessProgram? s = some (0, s.drop 2) ∧ Bech32.programFits 0 (s.drop 2) = true :=
  witness_program_of_front (witness_key_hash_front h) rfl

theorem witness_program_of_script_hash {s : Script} (h : s.isWitnessScriptHash = true) :
    witnessProgram? s = some (0, s.drop 2) ∧ Bech32.programFits 0 (s.drop 2) = true :=
  witness_program_of_front (witness_script_hash_front h) rfl

theorem witness_program_of_taproot {s : Script} (h : s.isTaproot = true) :
    witnessProgram? s = some (1, s.drop 2) ∧ Bech32.programFits 1 (s.drop 2) = true :=
  witness_program_of_front (taproot_front h) rfl

theorem public_key_begins {s : Script} (h : s.isPublicKey = true) :
    ∃ first rest, s = first :: rest ∧ (first = 0x21 ∨ first = 0x41) := by
  cases s with
  | nil => cases h
  | cons first rest =>
    simp only [isPublicKey, Bool.or_eq_true, Bool.and_eq_true, beq_iff_eq, List.head?_cons,
      Option.some.injEq] at h
    refine ⟨first, rest, rfl, ?_⟩
    rcases h with h | h
    · exact .inr h.1.2
    · exact .inl h.1.2

theorem no_witness_program_of_public_key {s : Script} (h : s.isPublicKey = true) :
    witnessProgram? s = none := by
  obtain ⟨first, rest, rfl, rfl | rfl⟩ := public_key_begins h
  · exact no_witness_program_of_first rfl rest
  · exact no_witness_program_of_first rfl rest

theorem multisig_begins {s : Script} (h : s.isMultisig = true) :
    ∃ first rest, s = first :: rest ∧ (smallNumber? first).isSome = true := by
  cases s with
  | nil =>
    rw [isMultisig, instructions_nil] at h
    cases h
  | cons first rest =>
    refine ⟨first, rest, rfl, ?_⟩
    cases hform : pushForm? first with
    | none =>
      rw [isMultisig, instructions_operation (push_form_eq_none.mp hform)] at h
      cases hnumber : smallNumber? first with
      | some n => rfl
      | none =>
        simp only [hnumber] at h
        cases h
    | some form =>
      -- a script that begins with a push does not say how many keys it asks for
      cases htake : form.take? rest with
      | none =>
        rw [isMultisig, instructions_broken hform htake] at h
        cases h
      | some taken =>
        rw [isMultisig, instructions_taken hform htake] at h
        cases h

end Script

namespace Template

def tested : List Template :=
  [.publicKeyHash, .scriptHash, .witnessKeyHash, .witnessScriptHash, .taproot, .publicKey,
    .multisig, .nullData]

def firstOf (row : List Template) (s : Script) : Template :=
  (row.find? fun t => t.test s).getD .nonstandard

def beginningWith (first : UInt8) : List Template :=
  if first = 0x51 then [.taproot, .multisig]
  else if (Script.smallNumber? first).isSome then [.multisig]
  else if first = 0x00 then [.witnessKeyHash, .witnessScriptHash]
  else if first = 0x76 then [.publicKeyHash]
  else if first = 0xa9 then [.scriptHash]
  else if first = 0x21 ∨ first = 0x41 then [.publicKey]
  else if first = 0x6a then [.nullData]
  else []

/-- A script of a form begins with a byte of that form. -/
theorem mem_beginning_with {t : Template} {s : Script} (ht : t ∈ tested) (h : t.test s = true) :
    ∃ first rest, s = first :: rest ∧ t ∈ beginningWith first := by
  cases t with
  | publicKeyHash => exact ⟨0x76, _, (Script.public_key_hash_frame h).1.symm, by decide⟩
  | scriptHash => exact ⟨0xa9, _, (Script.script_hash_frame h).1.symm, by decide⟩
  | witnessKeyHash => exact ⟨0x00, _, (Script.witness_key_hash_front h).1.symm, by decide⟩
  | witnessScriptHash => exact ⟨0x00, _, (Script.witness_script_hash_front h).1.symm, by decide⟩
  | taproot => exact ⟨0x51, _, (Script.taproot_front h).1.symm, by decide⟩
  | publicKey =>
    obtain ⟨first, rest, hs, rfl | rfl⟩ := Script.public_key_begins h
    · exact ⟨0x21, rest, hs, by decide⟩
    · exact ⟨0x41, rest, hs, by decide⟩
  | multisig =>
    obtain ⟨first, rest, hs, hnumber⟩ := Script.multisig_begins h
    refine ⟨first, rest, hs, ?_⟩
    -- the code for one begins taproot programs too
    by_cases hone : first = 0x51
    · rw [beginningWith, if_pos hone]
      decide
    · rw [beginningWith, if_neg hone, if_pos hnumber]
      exact List.mem_singleton_self _
  | nullData =>
    obtain ⟨rest, hs⟩ := List.head?_eq_some_iff.mp (beq_iff_eq.mp h)
    exact ⟨0x6a, rest, hs, by decide⟩
  | nonstandard => exact absurd ht (by decide)

/-- Two forms that begin alike are among the few pairs that could. -/
theorem eq_or_pair_of_beginning {t u : Template} {first : UInt8} (ht : t ∈ beginningWith first)
    (hu : u ∈ beginningWith first) :
    t = u ∨
    (t, u) ∈ [(.taproot, .multisig), (.multisig, .taproot), (.witnessKeyHash, .witnessScriptHash),
      (.witnessScriptHash, .witnessKeyHash)] := by
  have hpairs : ∀ row ∈ ([[.taproot, .multisig], [.multisig], [.witnessKeyHash, .witnessScriptHash],
      [.publicKeyHash],
      [.scriptHash], [.publicKey], [.nullData], []] : List (List Template)), ∀ t ∈ row, ∀ u ∈ row,
      t = u ∨ (t, u) ∈ [(.taproot, .multisig), (.multisig, .taproot),
        (.witnessKeyHash, .witnessScriptHash),
        (.witnessScriptHash, .witnessKeyHash)] := by decide
  apply hpairs (beginningWith first) _ t ht u hu
  unfold beginningWith
  split_ifs <;> decide

theorem not_taproot_and_multisig {s : Script} (ht : s.isTaproot = true) (hm : s.isMultisig = true) :
    False := by
  rw [Script.not_multisig_of_witness_program (Script.witness_program_of_taproot ht).1] at hm
  cases hm

theorem not_witness_key_hash_and_script_hash {s : Script} (hk : s.isWitnessKeyHash = true)
    (hs : s.isWitnessScriptHash = true) : False := by
  have hkey := (Script.witness_key_hash_front hk).2
  rw [(Script.witness_script_hash_front hs).2] at hkey
  cases hkey

/-- A script satisfies the test of one form at most. -/
theorem eq_of_tests {t u : Template} {s : Script} (ht : t ∈ tested) (hu : u ∈ tested)
    (hts : t.test s = true)
    (hus : u.test s = true) : t = u := by
  obtain ⟨first, rest, hs, hbt⟩ := mem_beginning_with ht hts
  obtain ⟨first', rest', hs', hbu⟩ := mem_beginning_with hu hus
  obtain ⟨rfl, -⟩ := List.cons.inj (hs.symm.trans hs')
  rcases eq_or_pair_of_beginning hbt hbu with heq | hpair
  · exact heq
  · simp only [List.mem_cons, List.not_mem_nil, or_false, Prod.mk.injEq] at hpair
    obtain ⟨rfl, rfl⟩ | ⟨rfl, rfl⟩ | ⟨rfl, rfl⟩ | ⟨rfl, rfl⟩ := hpair
    · exact (not_taproot_and_multisig hts hus).elim
    · exact (not_taproot_and_multisig hus hts).elim
    · exact (not_witness_key_hash_and_script_hash hts hus).elim
    · exact (not_witness_key_hash_and_script_hash hus hts).elim

theorem first_of_cons (t : Template) (row : List Template) (s : Script) :
    firstOf (t :: row) s = if t.test s = true then t else firstOf row s := by
  by_cases h : t.test s = true <;> simp [firstOf, h]

theorem first_of_nil (s : Script) : firstOf [] s = .nonstandard := rfl

theorem of_eq_first (s : Script) : of s = firstOf tested s := by
  simp only [tested, first_of_cons, first_of_nil]
  rfl

/-- The form of a script is the one whose test it satisfies. -/
theorem of_eq_iff {t : Template} (ht : t ∈ tested) {s : Script} : of s = t ↔ t.test s = true := by
  constructor
  · intro h
    rw [← h]
    exact test_of s
  · intro h
    rw [of_eq_first, firstOf]
    cases hfind : tested.find? fun u => u.test s with
    | none => exact absurd h (List.find?_eq_none.mp hfind t ht)
    | some u =>
      have htest : u.test s = true := List.find?_some (p := fun u : Template => u.test s) hfind
      exact eq_of_tests (List.mem_of_find?_eq_some hfind) ht htest h

/-- A script passes no test but that of its form. -/
theorem test_eq_false {t : Template} (ht : t ∈ tested) {s : Script} (h : of s ≠ t) :
    t.test s = false := by
  apply Bool.eq_false_iff.mpr
  intro htest
  exact h ((of_eq_iff ht).mpr htest)

/-- A script is nonstandard when it passes none of the tests. -/
theorem of_eq_nonstandard_iff {s : Script} :
    of s = .nonstandard ↔ ∀ t ∈ tested, t.test s = false := by
  constructor
  · intro h t ht
    apply test_eq_false ht
    intro heq
    rw [← heq, h] at ht
    exact absurd ht (by decide)
  · intro h
    have hfind : (tested.find? fun t => t.test s) = none := by
      apply List.find?_eq_none.mpr
      intro t ht htest
      rw [h t ht] at htest
      cases htest
    rw [of_eq_first, firstOf, hfind]
    rfl

/-- The tests may be made in any order. -/
theorem first_of_perm {row : List Template} (hp : row.Perm tested) (s : Script) :
    firstOf row s = of s := by
  rw [firstOf]
  cases hfind : row.find? fun t => t.test s with
  | none =>
    apply Eq.symm
    apply of_eq_nonstandard_iff.mpr
    intro t ht
    exact Bool.eq_false_iff.mpr (List.find?_eq_none.mp hfind t (hp.mem_iff.mpr ht))
  | some t =>
    have ht : t ∈ tested := hp.mem_iff.mp (List.mem_of_find?_eq_some hfind)
    have htest : t.test s = true := List.find?_some (p := fun u : Template => u.test s) hfind
    exact ((of_eq_iff ht).mpr htest).symm

def ofProgram (version length : Nat) : Template :=
  if version = 0 ∧ length = 20 then .witnessKeyHash
  else if version = 0 ∧ length = 32 then .witnessScriptHash
  else if version = 1 ∧ length = 32 then .taproot
  else .nonstandard

theorem of_program_cases (version length : Nat) :
    ofProgram version length = .witnessKeyHash ∧ version = 0 ∨
      ofProgram version length = .witnessScriptHash ∧ version = 0 ∨
      ofProgram version length = .taproot ∧ version = 1 ∨ ofProgram version length =
        .nonstandard := by
  unfold ofProgram
  split_ifs with hkey hscript htaproot
  · exact .inl ⟨rfl, hkey.1⟩
  · exact .inr (.inl ⟨rfl, hscript.1⟩)
  · exact .inr (.inr (.inl ⟨rfl, htaproot.1⟩))
  · exact .inr (.inr (.inr rfl))

theorem of_program_mem (version length : Nat) :
    ofProgram version length ∈ [.witnessKeyHash, .witnessScriptHash, .taproot] ∨
      ofProgram version length = .nonstandard := by
  unfold ofProgram
  split_ifs <;> decide

/-- Only witness programs of version 0 with two lengths and of version 1 with one have a form. -/
theorem of_program_eq_nonstandard {version length : Nat} :
    ofProgram version length = .nonstandard ↔
      ¬(version = 0 ∧ (length = 20 ∨ length = 32)) ∧ ¬(version = 1 ∧ length = 32) := by
  unfold ofProgram
  split_ifs with hkey hscript htaproot
  · simp [hkey]
  · simp [hscript]
  · simp [htaproot]
  · simp only [true_iff]
    omega

/-- The scripts of three forms are witness programs of the version and length of the form. -/
theorem program_of_test {t : Template}
    (ht : t ∈ [.witnessKeyHash, .witnessScriptHash, .taproot]) {s : Script}
    (h : t.test s = true) :
    ∃ version, Script.witnessProgram? s = some (version, s.drop 2) ∧
    ofProgram version (s.drop 2).length = t := by
  simp only [List.mem_cons, List.not_mem_nil, or_false] at ht
  obtain rfl | rfl | rfl := ht
  · refine ⟨0, (Script.witness_program_of_key_hash h).1, ?_⟩
    rw [(Script.witness_key_hash_front h).2]
    rfl
  · refine ⟨0, (Script.witness_program_of_script_hash h).1, ?_⟩
    rw [(Script.witness_script_hash_front h).2]
    rfl
  · refine ⟨1, (Script.witness_program_of_taproot h).1, ?_⟩
    rw [(Script.taproot_front h).2]
    rfl

theorem mem_of_witness_program_begins {t : Template} {version : Nat} (hv : version ≤ 16)
    (h : t ∈ beginningWith (Address.versionOperation version)) :
    t ∈ [.witnessKeyHash, .witnessScriptHash, .taproot] ∨ t = .multisig := by
  have hall : ∀ n ≤ 16, ∀ t ∈ beginningWith (Address.versionOperation n),
      t ∈ [Template.witnessKeyHash, .witnessScriptHash, .taproot] ∨ t = .multisig := by decide
  exact hall version hv t h

/-- A witness program satisfies the test of one of these forms if its version and length are those
of the form. -/
theorem test_iff_of_program {t : Template}
    (ht : t ∈ [.witnessKeyHash, .witnessScriptHash, .taproot]) {s : Script}
    {version : Nat} {program : Bytes} (h : Script.witnessProgram? s = some (version, program)) :
    t.test s = true ↔ ofProgram version program.length = t := by
  constructor
  · intro htest
    obtain ⟨version', hprogram, hform⟩ := program_of_test ht htest
    obtain ⟨rfl, rfl⟩ := Prod.mk.inj (Option.some.inj (h.symm.trans hprogram))
    exact hform
  · intro hform
    obtain ⟨-, -, -, hs⟩ := Script.witness_program_eq_some.mp h
    unfold ofProgram at hform
    split_ifs at hform with hkey hscript htaproot
    · rw [← hform]
      simp [test, Script.isWitnessKeyHash, hs, hkey.1, hkey.2, Address.versionOperation]
    · rw [← hform]
      simp [test, Script.isWitnessScriptHash, hs, hscript.1, hscript.2, Address.versionOperation]
    · rw [← hform]
      simp [test, Script.isTaproot, hs, htaproot.1, htaproot.2, Address.versionOperation]
    · rw [← hform] at ht
      exact absurd ht (by decide)

/-- The form of a witness program depends on its version and length only. -/
theorem of_witness_program {s : Script} {version : Nat} {program : Bytes}
    (h : Script.witnessProgram? s = some (version, program)) :
    of s = ofProgram version program.length := by
  obtain ⟨hversion, -, -, hs⟩ := Script.witness_program_eq_some.mp h
  rcases of_program_mem version program.length with hmem | hnone
  · have hsub : [.witnessKeyHash, .witnessScriptHash, .taproot] ⊆ tested := by decide
    apply (of_eq_iff (hsub hmem)).mpr
    exact (test_iff_of_program hmem h).mpr rfl
  · rw [hnone]
    apply of_eq_nonstandard_iff.mpr
    intro t ht
    apply Bool.eq_false_iff.mpr
    intro htest
    -- the forms that begin with a version ask for a program that is not there, or for more than a
    -- program
    obtain ⟨first, rest, hfirst, hbegins⟩ := mem_beginning_with ht htest
    obtain ⟨rfl, -⟩ := List.cons.inj (hs.symm.trans hfirst)
    rcases mem_of_witness_program_begins hversion hbegins with hmem | rfl
    · rw [← (test_iff_of_program hmem h).mp htest, hnone] at hmem
      exact absurd hmem (by decide)
    · have hmultisig : s.isMultisig = true := htest
      rw [Script.not_multisig_of_witness_program h] at hmultisig
      cases hmultisig

end Template

namespace Address

/-- The address that the frame of a script spells, whichever form the script is counted among. -/
def ofFrame? (network : Network) (s : Script) : Option Address :=
  if s.isPublicKeyHash then some (.publicKeyHash network.isTest ((s.drop 3).take 20))
  else if s.isScriptHash then some (.scriptHash network.isTest ((s.drop 2).take 20))
  else do
    let (version, program) ← Script.witnessProgram? s
    guard (Bech32.programFits version program)
    return .witness network.zone version program

/-- A script that is a witness program is addressed as one. -/
theorem of_frame_of_witness_program {network : Network} {s : Script} {version : Nat}
    {program : Bytes}
    (hp : s.isPublicKeyHash = false) (hs : s.isScriptHash = false)
    (h : Script.witnessProgram? s = some (version, program))
    (hfits : Bech32.programFits version program = true) :
    ofFrame? network s = some (.witness network.zone version program) := by
  rw [ofFrame?, hp, hs, h]
  -- neither frame is there, so the program decides
  change (do
    guard (Bech32.programFits version program = true)
    some (witness network.zone version program)) = _
  rw [guard, if_pos hfits]
  rfl

theorem of_frame_of_no_witness_program {network : Network} {s : Script}
    (hp : s.isPublicKeyHash = false)
    (hs : s.isScriptHash = false) (h : Script.witnessProgram? s = none) :
    ofFrame? network s = none := by
  rw [ofFrame?, hp, hs, h]
  rfl

/-- The address of a script is what its frame spells, unless no address is looked for. -/
theorem of_script_eq (network : Network) (s : Script) :
    ofScript? network s = if (Template.of s).isAddressless then none else ofFrame? network s := by
  have htest := Template.test_of s
  have hkey : Template.of s ≠ .publicKeyHash → s.isPublicKeyHash = false :=
    Template.test_eq_false (by decide)
  have hhash : Template.of s ≠ .scriptHash → s.isScriptHash = false :=
    Template.test_eq_false (by decide)
  rw [ofScript?]
  -- in each form the frames are told from the test of the form, and those before it from its being
  -- no other
  cases hform : Template.of s with
  | publicKeyHash =>
    rw [hform] at htest
    have hpay : s.isPublicKeyHash = true := htest
    rw [ofFrame?, if_pos hpay]
    rfl
  | scriptHash =>
    rw [hform] at htest
    have hpay : s.isScriptHash = true := htest
    have hother : s.isPublicKeyHash = false := hkey (by rw [hform]; decide)
    rw [ofFrame?, hother, if_neg Bool.false_ne_true, if_pos hpay]
    rfl
  | witnessKeyHash =>
    rw [hform] at htest hkey hhash
    obtain ⟨hprogram, hfits⟩ := Script.witness_program_of_key_hash htest
    exact (of_frame_of_witness_program (hkey (by decide)) (hhash (by decide)) hprogram hfits).symm
  | witnessScriptHash =>
    rw [hform] at htest hkey hhash
    obtain ⟨hprogram, hfits⟩ := Script.witness_program_of_script_hash htest
    exact (of_frame_of_witness_program (hkey (by decide)) (hhash (by decide)) hprogram hfits).symm
  | taproot =>
    rw [hform] at htest hkey hhash
    obtain ⟨hprogram, hfits⟩ := Script.witness_program_of_taproot htest
    exact (of_frame_of_witness_program (hkey (by decide)) (hhash (by decide)) hprogram hfits).symm
  | publicKey =>
    rw [hform] at htest hkey hhash
    exact (of_frame_of_no_witness_program (hkey (by decide)) (hhash (by decide))
      (Script.no_witness_program_of_public_key htest)).symm
  | multisig =>
    rw [hform] at htest hkey hhash
    have hnone : Script.witnessProgram? s = none := by
      cases hprogram : Script.witnessProgram? s with
      | none => rfl
      | some parts =>
        have hmultisig : s.isMultisig = true := htest
        rw [Script.not_multisig_of_witness_program hprogram] at hmultisig
        cases hmultisig
    exact (of_frame_of_no_witness_program (hkey (by decide)) (hhash (by decide)) hnone).symm
  | nullData => rfl
  | nonstandard => rfl

end Address

/-- A script has an address on every network or on none, as its form tells. -/
theorem Script.address_is_some_iff (network : Network) (s : Script) :
    (Script.address? network s).isSome = true ↔
      Template.of s ∈ [.publicKeyHash, .scriptHash, .witnessKeyHash, .witnessScriptHash,
        .taproot] := by
  rw [Script.address?, Option.isSome_map, Address.ofScript?]
  cases Template.of s <;> simp

/-- No script satisfies the tests of two forms, and the order of the tests does not matter. A script
is null data by its first byte alone. Five forms have an address on every network, which is the one
that the frame of the script spells, and the other forms have none on any. -/
theorem Template.forms_stay_apart (s : Script) :
    (∀ t ∈ tested, ∀ u ∈ tested, t.test s = true → u.test s = true → t = u) ∧
    (∀ row : List Template, row.Perm tested → firstOf row s = of s) ∧
    (of s = .nullData ↔ s.head? = some 0x6a) ∧
    ∀ network,
      ((Script.address? network s).isSome = true ↔
        of s ∈ [.publicKeyHash, .scriptHash, .witnessKeyHash, .witnessScriptHash, .taproot]) ∧
      (Script.address? network s = none ↔ of s ∈ [.publicKey, .multisig, .nullData, .nonstandard]) ∧
      Script.address? network s =
        if (of s).isAddressless then none else (Address.ofFrame? network s).map Address.render := by
  refine ⟨?_, ?_, of_eq_null_data_iff, ?_⟩
  · intro t ht u hu hts hus
    exact eq_of_tests ht hu hts hus
  · intro row hrow
    exact first_of_perm hrow s
  · intro network
    have hsome := Script.address_is_some_iff network s
    refine ⟨hsome, ?_, ?_⟩
    · rw [← Option.not_isSome_iff_eq_none, hsome]
      cases of s <;> decide
    · rw [Script.address?, Address.of_script_eq]
      split <;> rfl

def Script.oneOfOne : Script := [0x51, 0x21, 0x02] ++ List.replicate 32 0x33 ++ [0x51, 0xae]

/-- With the tests made in the opposite order the form is the same. -/
theorem Template.forms_stay_apart_backwards :
    tested.reverse.Perm tested ∧ test .multisig Script.oneOfOne = true ∧
      firstOf tested.reverse Script.oneOfOne = .multisig ∧
      Script.address? .bitcoin Script.oneOfOne = none := by
  have hperm : tested.reverse.Perm tested := List.reverse_perm tested
  have htest : test .multisig Script.oneOfOne = true := by cbv
  have hform : of Script.oneOfOne = .multisig := (of_eq_iff (by decide)).mpr htest
  obtain ⟨-, horder, -, haddress⟩ := forms_stay_apart Script.oneOfOne
  refine ⟨hperm, htest, ?_, ?_⟩
  · rw [horder tested.reverse hperm, hform]
  · rw [(haddress .bitcoin).2.1, hform]
    decide

end ChainLens
