import ChainLens.Proofs.Address.RoundTrip
import ChainLens.Proofs.Address.Spelling
import ChainLens.Proofs.Script.FormsApart

/-!
What a text that is accepted as an address says. It is read as one address whatever the network,
that address is written as the text again, and the script of the address leads back to it, unless it
is a witness program without a form of its own.
-/

namespace ChainLens

/-- A text yields the script of the address that it is, blanks aside, if that belongs to the
network. -/
theorem script_of_address_eq_ok {network : Network} {text : String} {s : Script} :
    scriptOfAddress network text = .ok s ↔
      ∃ a, Address.parse (Text.trim text) = .ok a ∧ a.validOn network = true ∧ a.script = s := by
  rw [scriptOfAddress]
  cases hparse : Address.parse (Text.trim text) with
  | error fault => simp
  | ok a => by_cases hv : a.validOn network = true <;> simp [hv]

namespace Address

/-- The spelling in which an address is written: a segwit text in lower case, and any other as it
is. -/
def spelling (text : String) : String :=
  if (Bech32.decodeChars text.toList).isSome then String.ofList (text.toList.map Bech32.lower)
  else text

/-- The address of a payload carries that payload. -/
theorem payload_of_ok {payload : Bytes} {a : Address} (h : ofPayload payload = .ok a) :
    a.payload? = some payload ∧ a.Fits := by
  cases payload with
  | nil => cases h
  | cons version hash =>
    rw [ofPayload] at h
    by_cases hlength : hash.length = 20
    · rw [if_neg (not_not.mpr hlength)] at h
      -- each version byte has a kind of its own
      split_ifs at h with h00 h05 h6f hc4
      · rw [← Except.ok.inj h, h00]
        exact ⟨rfl, hlength⟩
      · rw [← Except.ok.inj h, h05]
        exact ⟨rfl, hlength⟩
      · rw [← Except.ok.inj h, h6f]
        exact ⟨rfl, hlength⟩
      · rw [← Except.ok.inj h, hc4]
        exact ⟨rfl, hlength⟩
    · rw [if_pos hlength] at h
      cases h

/-- A text is read as segwit or, where that fails, as base58. -/
theorem parse_eq_ok {text : String} {a : Address} (h : parse text = .ok a) :
    (∃ parts zone, Bech32.decodeChars text.toList = some parts ∧ zone.label = parts.label ∧
      a = witness zone parts.version parts.program) ∨
    (Bech32.decodeChars text.toList = none ∧
      ∃ payload, Base58.decodeChecked text.toList = some payload ∧ ofPayload payload = .ok a) := by
  rw [parse] at h
  split at h
  · next parts hparts =>
    split at h
    · next zone hzone =>
      exact .inl ⟨parts, zone, hparts, SegwitZone.label_of_some hzone, (Except.ok.inj h).symm⟩
    · cases h
  · next hnone =>
    split at h
    · cases h
    · split at h
      · next payload hpayload => exact .inr ⟨hnone, payload, hpayload, h⟩
      · cases h

/-- What a text is read as fits its kind and is written as that text again. -/
theorem render_of_parse {text : String} {a : Address} (h : parse text = .ok a) :
    a.Fits ∧ a.render = spelling text := by
  obtain ⟨parts, zone, hparts, hlabel, rfl⟩ | ⟨hnone, payload, hpayload, hok⟩ := parse_eq_ok h
  · obtain ⟨-, -, -, -, -, -, -, -, -, -, -, hfits⟩ := Bech32.decode_chars_eq_some.mp hparts
    have hsome : (Bech32.decodeChars text.toList).isSome = true := by
      rw [hparts]
      rfl
    refine ⟨hfits, ?_⟩
    rw [spelling, if_pos hsome, render, hlabel, Bech32.encode_chars_decode_chars hparts]
  · obtain ⟨hkept, hfits⟩ := payload_of_ok hok
    have hnot : ¬(Bech32.decodeChars text.toList).isSome = true := by
      rw [hnone]
      exact Bool.false_ne_true
    refine ⟨hfits, ?_⟩
    rw [spelling, if_neg hnot, render_of_payload hkept,
      Base58.encode_checked_decode_checked hpayload, String.ofList_toList]

theorem form_of_key_hash (isTest : Bool) {hash : Bytes} (hf : hash.length = 20) :
    Template.of (publicKeyHash isTest hash).script = .publicKeyHash := by
  have hdrop : (publicKeyHash isTest hash).script.drop 23 = [0x88, 0xac] :=
    List.drop_left' (by rw [List.length_append, hf]; rfl)
  apply (Template.of_eq_iff (by decide)).mpr
  simp only [Template.test, Script.isPublicKeyHash, hdrop, beq_self_eq_true, Bool.and_true]
  simp [script, hf]

theorem form_of_script_hash (isTest : Bool) {hash : Bytes} (hf : hash.length = 20) :
    Template.of (scriptHash isTest hash).script = .scriptHash := by
  have hdrop : (scriptHash isTest hash).script.drop 22 = [0x87] :=
    List.drop_left' (by rw [List.length_append, hf]; rfl)
  apply (Template.of_eq_iff (by decide)).mpr
  simp only [Template.test, Script.isScriptHash, hdrop, beq_self_eq_true, Bool.and_true]
  simp [script, hf]

/-- The script of an address leads back to the address, unless it has no form of its own. -/
theorem of_script_script {network : Network} {a : Address} (hf : a.Fits)
    (hv : a.validOn network = true) :
    ofScript? network a.script = if Template.of a.script = .nonstandard then none else some a := by
  cases a with
  | publicKeyHash isTest hash =>
    have hform := form_of_key_hash isTest hf
    have hnetwork : isTest = network.isTest := beq_iff_eq.mp hv
    have hhash : ((publicKeyHash isTest hash).script.drop 3).take 20 = hash := List.take_left' hf
    rw [ofScript?, hform, if_neg (by decide), hnetwork]
    exact congrArg (fun h => some (publicKeyHash network.isTest h)) hhash
  | scriptHash isTest hash =>
    have hform := form_of_script_hash isTest hf
    have hnetwork : isTest = network.isTest := beq_iff_eq.mp hv
    have hhash : ((scriptHash isTest hash).script.drop 2).take 20 = hash := List.take_left' hf
    rw [ofScript?, hform, if_neg (by decide), hnetwork]
    exact congrArg (fun h => some (scriptHash network.isTest h)) hhash
  | witness zone version program =>
    have hform := Template.of_witness_program (Script.witness_program_of_fits hf)
    have hnetwork : zone = network.zone := beq_iff_eq.mp hv
    rw [script, ofScript?, hform, hnetwork]
    -- versions and lengths without a form of their own have no address
    obtain ⟨heq, rfl⟩ | ⟨heq, rfl⟩ | ⟨heq, rfl⟩ | heq :=
      Template.of_program_cases version program.length
    · rw [heq, if_neg (by decide)]
      rfl
    · rw [heq, if_neg (by decide)]
      rfl
    · rw [heq, if_neg (by decide)]
      rfl
    · rw [heq, if_pos rfl]

/-- Only witness programs that later versions may define have an address and no form. -/
theorem form_eq_nonstandard_iff {a : Address} (hf : a.Fits) :
    Template.of a.script = .nonstandard ↔
      ∃ version program, Script.witnessProgram? a.script = some (version, program) ∧
        Template.ofProgram version program.length = .nonstandard := by
  constructor
  · intro h
    cases a with
    | publicKeyHash isTest hash =>
      rw [form_of_key_hash isTest hf] at h
      cases h
    | scriptHash isTest hash =>
      rw [form_of_script_hash isTest hf] at h
      cases h
    | witness zone version program =>
      have hprogram : Script.witnessProgram? (witness zone version program).script =
          some (version, program) :=
        Script.witness_program_of_fits hf
      exact ⟨version, program, hprogram, (Template.of_witness_program hprogram).symm.trans h⟩
  · intro h
    obtain ⟨version, program, hprogram, hform⟩ := h
    exact (Template.of_witness_program hprogram).trans hform

end Address

/-- The script of an accepted text has the text as its address, a segwit text in lower case, unless
it is a witness program of another version or length than those that have a form. -/
theorem Script.accepted_texts_are_canonical {network : Network} {text : String} {s : Script}
    (h : scriptOfAddress network text = .ok s) :
    (Script.address? network s = some (Address.spelling (Text.trim text)) ∨
      Script.address? network s = none) ∧
    (Script.address? network s = none ↔
      ∃ version program, Script.witnessProgram? s = some (version, program) ∧
        ¬(version = 0 ∧ (program.length = 20 ∨ program.length = 32)) ∧
        ¬(version = 1 ∧ program.length = 32)) := by
  obtain ⟨a, hparse, hvalid, rfl⟩ := script_of_address_eq_ok.mp h
  obtain ⟨hfits, hrender⟩ := Address.render_of_parse hparse
  have haddress : Script.address? network a.script =
      if Template.of a.script = .nonstandard then none
      else some (Address.spelling (Text.trim text)) := by
    rw [Script.address?, Address.of_script_script hfits hvalid, ← hrender]
    split <;> rfl
  -- both statements are about the form of the script now
  simp only [← Template.of_program_eq_nonstandard]
  rw [← Address.form_eq_nonstandard_iff hfits, haddress]
  constructor
  · split
    · exact .inr rfl
    · exact .inl rfl
  · split
    · next hform => exact iff_of_true rfl hform
    · next hform => exact iff_of_false (Option.some_ne_none _) hform

/-- The script of an address of version 15, for which there is no form. -/
def laterProgram : Script := [0x5f, 0x05, 0x7b, 0xde, 0xf7, 0xbf, 0x4f]

/-- A text in capitals after a blank, and one of a version that has no form. -/
theorem accepted_texts :
    scriptOfAddress .bitcoin " BC1QW508D6QEJXTDG4Y5R3ZARVARY0C5XW7KV8F3T4" = .ok keyHashProgram ∧
      Address.spelling (Text.trim " BC1QW508D6QEJXTDG4Y5R3ZARVARY0C5XW7KV8F3T4") =
        "bc1qw508d6qejxtdg4y5r3zarvary0c5xw7kv8f3t4" ∧
      scriptOfAddress .bitcoin "bc10000000608c9448" = .ok laterProgram :=
  ⟨by decide +kernel, by decide +kernel, by decide +kernel⟩

theorem Script.accepted_texts_are_canonical_in_capitals :
    scriptOfAddress .bitcoin " BC1QW508D6QEJXTDG4Y5R3ZARVARY0C5XW7KV8F3T4" = .ok keyHashProgram ∧
      Script.address? .bitcoin keyHashProgram = some "bc1qw508d6qejxtdg4y5r3zarvary0c5xw7kv8f3t4" ∧
      scriptOfAddress .bitcoin "bc10000000608c9448" = .ok laterProgram ∧
      Script.address? .bitcoin laterProgram = none := by
  obtain ⟨hread, hspelling, hlater⟩ := accepted_texts
  have hprogram : Script.witnessProgram? keyHashProgram =
      some (0, keyHashProgram.drop 2) := by decide
  obtain ⟨haddress, hnone⟩ := Script.accepted_texts_are_canonical hread
  refine ⟨hread, ?_, hlater, ?_⟩
  · rcases haddress with haddress | haddress
    · rw [haddress, hspelling]
    · -- a program of version 0 and twenty bytes has a form
      obtain ⟨version, program, heq, hother, -⟩ := hnone.mp haddress
      obtain ⟨rfl, rfl⟩ := Prod.mk.inj (Option.some.inj (hprogram.symm.trans heq))
      exact absurd ⟨rfl, .inl rfl⟩ hother
  · apply (Script.accepted_texts_are_canonical hlater).2.mpr
    exact ⟨15, laterProgram.drop 2, by decide, by decide, by decide⟩

end ChainLens
