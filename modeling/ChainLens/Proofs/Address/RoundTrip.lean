import ChainLens.Chain.BlockRef
import ChainLens.Proofs.Address.Base58Text
import ChainLens.Proofs.Address.Bech32Text
import ChainLens.Proofs.Address.ScriptForms
import ChainLens.Proofs.Text.Trimmed
import ChainLens.Text.Ascii

/-!
The text of a script's address never leads back to another script. A segwit text is read as what it
was written from. So is a base58 text, unless it happens to be well formed as segwit as well: then
its label is no chain's, and it is refused.
-/

namespace ChainLens

theorem SegwitZone.of_label_label (zone : SegwitZone) : ofLabel? zone.label = some zone := by
  cases zone <;> decide

theorem SegwitZone.label_of_some {label : List Char} {zone : SegwitZone}
    (h : ofLabel? label = some zone) :
    zone.label = label := by
  unfold ofLabel? at h
  split_ifs at h with hmain htest hregtest
  · rw [hmain, ← Option.some.inj h]
  · rw [htest, ← Option.some.inj h]
  · rw [hregtest, ← Option.some.inj h]

theorem SegwitZone.head_of_label {label : List Char} {zone : SegwitZone}
    (h : ofLabel? label = some zone) :
    label.head? = some 'b' ∨ label.head? = some 't' := by
  rw [← label_of_some h]
  cases zone <;> decide

theorem not_blank_of_visible {c : Char} (h : Bech32.isLabelChar c = true) :
    Text.isBlank c = false := by
  simp only [Bech32.isLabelChar, Bool.and_eq_true, decide_eq_true_eq] at h
  simp only [Text.isBlank, Bool.or_eq_false_iff, Bool.and_eq_false_iff, decide_eq_false_iff_not,
    beq_eq_false_iff_ne]
  omega

theorem utf8_size_of_visible {c : Char} (h : Bech32.isLabelChar c = true) : c.utf8Size = 1 := by
  simp only [Bech32.isLabelChar, Bool.and_eq_true, decide_eq_true_eq] at h
  apply Char.utf8Size_eq_one_iff.mpr
  apply UInt32.le_iff_toNat_le.mpr
  exact Nat.le_trans h.2 (by decide)

theorem Text.trim_of_visible {text : List Char} (h : ∀ c ∈ text, Bech32.isLabelChar c = true) :
    trim (String.ofList text) = String.ofList text := by
  have htrimmed : Trimmed text := .of_forall fun c hc => not_blank_of_visible (h c hc)
  rw [trim, String.toList_ofList, htrimmed.trim_chars]

namespace Base58

theorem alphabet_visible : ∀ c ∈ alphabet, Bech32.isLabelChar c = true := by
  apply List.all_eq_true.mp
  decide

theorem mem_alphabet_of_mem_encode_chars {bytes : Bytes} :
    ∀ c ∈ encodeChars bytes, c ∈ alphabet := by
  intro c h
  rcases List.mem_append.mp h with h | h
  · rw [(List.mem_replicate.mp h).2]
    decide
  · obtain ⟨d, -, rfl⟩ := List.mem_map.mp h
    rw [List.getD_eq_getElem?_getD]
    cases hd : alphabet[d]? with
    | none => decide
    | some c => exact List.mem_of_getElem? hd

theorem encode_checked_visible (payload : Bytes) :
    ∀ c ∈ encodeChecked payload, Bech32.isLabelChar c = true := by
  intro c h
  exact alphabet_visible c (mem_alphabet_of_mem_encode_chars c h)

theorem utf8_byte_size_encode_checked {payload : Bytes} (h : payload.length = 21) :
    (String.ofList (encodeChecked payload)).utf8ByteSize ≤ 50 := by
  have hlength := length_encode_chars_le (payload ++ checksum payload)
  rw [List.length_append, length_checksum, h] at hlength
  rw [Text.utf8_byte_size_of_ascii fun c hc =>
    utf8_size_of_visible (encode_checked_visible payload c hc)]
  exact hlength

theorem head_encode_chars_zero (bytes : Bytes) : (encodeChars (0 :: bytes)).head? = some '1' := rfl

def leadingChars : List Char := ['1', '2', '3', 'm', 'n']

/-- These digits are not those that segwit addresses begin with. -/
theorem lower_leading_chars {c : Char} (h : c ∈ leadingChars) :
    Bech32.lower c ≠ 'b' ∧ Bech32.lower c ≠ 't' := by
  have hall : leadingChars.all (fun c => Bech32.lower c != 'b' && Bech32.lower c != 't') =
      true := by decide
  have hc := List.all_eq_true.mp hall c h
  rw [Bool.and_eq_true, bne_iff_ne, bne_iff_ne] at hc
  exact hc

def versionChars (version : UInt8) : List Char :=
  if version = 0x00 then ['1']
  else if version = 0x05 then ['3']
  else if version = 0x6f then ['m', 'n']
  else ['2']

theorem version_chars_leading (version : UInt8) : versionChars version ⊆ leadingChars := by
  unfold versionChars leadingChars
  split
  · simp
  split
  · simp
  split
  · simp
  · simp

/-- The version byte is seen in the first character, and the addresses of the last byte all have the
same length. -/
theorem begin_encode_checked {version : UInt8} {hash : Bytes}
    (hv : version ∈ [0x00, 0x05, 0x6f, 0xc4])
    (hl : hash.length = 20) :
    (∃ c ∈ versionChars version, (encodeChecked (version :: hash)).head? = some c) ∧
      (version = 0xc4 → (encodeChecked (version :: hash)).length = 35) := by
  have hlength : (hash ++ checksum (version :: hash)).length = 24 := by
    rw [List.length_append, length_checksum, hl]
  have htext : encodeChecked (version :: hash) =
      encodeChars (version :: (hash ++ checksum (version :: hash))) := rfl
  rw [htext]
  -- the first digit depends on the version byte alone, whatever the 24 bytes behind it are
  generalize hash ++ checksum (version :: hash) = rest at hlength
  simp only [List.mem_cons, List.not_mem_nil, or_false] at hv
  obtain rfl | rfl | rfl | rfl := hv
  · exact ⟨⟨'1', by decide, head_encode_chars_zero rest⟩, fun h => absurd h (by decide)⟩
  · obtain ⟨d, text, hd, -, hlow, hhigh⟩ := head_encode_chars hlength 0x05 2 3 33 (by decide)
    obtain rfl : d = 2 := by omega
    exact ⟨⟨'3', by decide, by rw [hd]; rfl⟩, fun h => absurd h (by decide)⟩
  · obtain ⟨d, text, hd, -, hlow, hhigh⟩ := head_encode_chars hlength 0x6f 44 46 33 (by decide)
    obtain rfl | rfl : d = 44 ∨ d = 45 := by omega
    · exact ⟨⟨'m', by decide, by rw [hd]; rfl⟩, fun h => absurd h (by decide)⟩
    · exact ⟨⟨'n', by decide, by rw [hd]; rfl⟩, fun h => absurd h (by decide)⟩
  · obtain ⟨d, text, hd, hmore, hlow, hhigh⟩ := head_encode_chars hlength 0xc4 1 2 34 (by decide)
    obtain rfl : d = 1 := by omega
    refine ⟨⟨'2', by decide, by rw [hd]; rfl⟩, ?_⟩
    intro _
    rw [hd, List.length_cons, hmore]

/-- An address in base58 of a known version begins with one of a few digits. -/
theorem head_encode_checked {version : UInt8} {hash : Bytes}
    (hv : version ∈ [0x00, 0x05, 0x6f, 0xc4])
    (hl : hash.length = 20) :
    ∃ c ∈ leadingChars, (encodeChecked (version :: hash)).head? = some c := by
  obtain ⟨c, hc, hhead⟩ := (begin_encode_checked hv hl).1
  exact ⟨c, version_chars_leading version hc, hhead⟩

end Base58

namespace Address

theorem render_of_payload {a : Address} {payload : Bytes} (hp : a.payload? = some payload) :
    a.render = String.ofList (Base58.encodeChecked payload) := by
  cases a <;> cases hp <;> rfl

/-- Only segwit addresses carry nothing in base58. -/
theorem eq_witness_of_payload {a : Address} (hp : a.payload? = none) :
    ∃ zone version program, a = witness zone version program := by
  cases a with
  | publicKeyHash isTest hash => cases hp
  | scriptHash isTest hash => cases hp
  | witness zone version program => exact ⟨zone, version, program, rfl⟩

theorem of_payload_eq_ok {a : Address} {payload : Bytes} (hp : a.payload? = some payload)
    (hf : a.Fits) :
    ofPayload payload = .ok a := by
  cases a with
  | publicKeyHash isTest hash =>
    have hlength : ¬hash.length ≠ 20 := not_not_intro hf
    cases hp
    rw [ofPayload, if_neg hlength]
    cases isTest <;> rfl
  | scriptHash isTest hash =>
    have hlength : ¬hash.length ≠ 20 := not_not_intro hf
    cases hp
    rw [ofPayload, if_neg hlength]
    cases isTest <;> rfl
  | witness zone version program => cases hp

/-- A payload is a known version byte and twenty bytes. -/
theorem payload_frame {a : Address} {payload : Bytes} (hp : a.payload? = some payload)
    (hf : a.Fits) :
    ∃ version hash, payload = version :: hash ∧ version ∈ [0x00, 0x05, 0x6f, 0xc4] ∧
    hash.length = 20 := by
  cases a with
  | publicKeyHash isTest hash =>
    cases hp
    exact ⟨_, hash, rfl, by cases isTest <;> decide, hf⟩
  | scriptHash isTest hash =>
    cases hp
    exact ⟨_, hash, rfl, by cases isTest <;> decide, hf⟩
  | witness zone version program => cases hp

/-- A text in base58 that is no segwit text is read as the address it was written from. -/
theorem parse_of_payload {a : Address} {payload : Bytes}
    (hp : a.payload? = some payload) (hf : a.Fits)
    (hs : Bech32.decodeChars a.render.toList = none) : parse a.render = .ok a := by
  obtain ⟨version, hash, hpayload, -, hlength⟩ := payload_frame hp hf
  have hshort : ¬a.render.utf8ByteSize > 50 := by
    rw [render_of_payload hp]
    apply Nat.not_lt.mpr
    apply Base58.utf8_byte_size_encode_checked
    rw [hpayload, List.length_cons, hlength]
  have hread : Base58.decodeChecked a.render.toList = some payload := by
    rw [render_of_payload hp, String.toList_ofList, Base58.decode_checked_encode_checked]
  rw [parse, hs]
  simp only [if_neg hshort, hread]
  exact of_payload_eq_ok hp hf

/-- A text in base58 that is a segwit text has the label of no chain. -/
theorem parse_of_parts {a : Address} {payload : Bytes} {parts : Bech32.Parts}
    (hp : a.payload? = some payload)
    (hf : a.Fits) (hs : Bech32.decodeChars a.render.toList = some parts) :
    parse a.render = .error .unknownLabel := by
  obtain ⟨version, hash, hpayload, hversion, hlength⟩ := payload_frame hp hf
  have hhead := Bech32.head_label hs
  obtain ⟨c, hc, htext⟩ := Base58.head_encode_checked hversion hlength
  rw [render_of_payload hp, hpayload, String.toList_ofList, List.head?_map, htext, Option.map_some]
    at hhead
  -- the label begins as the text does, and no chain's label begins with a version digit of base58
  have hlabel : SegwitZone.ofLabel? parts.label = none := by
    cases hzone : SegwitZone.ofLabel? parts.label with
    | none => rfl
    | some zone =>
      have hzoneHead := SegwitZone.head_of_label hzone
      rw [hhead, Option.some.injEq, Option.some.injEq] at hzoneHead
      exact absurd hzoneHead
        (not_or_intro (Base58.lower_leading_chars hc).1 (Base58.lower_leading_chars hc).2)
  rw [parse, hs]
  simp only [hlabel]

/-- A segwit address is read back from its text. -/
theorem parse_of_witness {zone : SegwitZone} {version : Nat} {program : Bytes}
    (hf : (witness zone version program).Fits) :
    parse (witness zone version program).render = .ok (witness zone version program) := by
  have hread := Bech32.decode_chars_encode_chars (Bech32.zone_label_fits zone) hf
  rw [parse, render, String.toList_ofList, hread]
  simp only [SegwitZone.of_label_label]

/-- The text of an address is read as that address, or it is refused for its label. -/
theorem parse_render {a : Address} (hf : a.Fits) :
    parse a.render = .ok a ∨ (∃ payload, a.payload? = some payload) ∧
    parse a.render = .error .unknownLabel := by
  cases hp : a.payload? with
  | none =>
    obtain ⟨zone, version, program, rfl⟩ := eq_witness_of_payload hp
    exact .inl (parse_of_witness hf)
  | some payload =>
    -- the segwit reading is tried first and there is no way back from it
    cases hs : Bech32.decodeChars a.render.toList with
    | none => exact .inl (parse_of_payload hp hf hs)
    | some parts => exact .inr ⟨⟨payload, rfl⟩, parse_of_parts hp hf hs⟩

/-- Two addresses of one text are the same. -/
theorem render_injective {a b : Address} (ha : a.Fits) (hb : b.Fits) (h : a.render = b.render) :
    a = b := by
  rcases parse_render ha with hra | ⟨⟨pa, hpa⟩, hra⟩
  · rcases parse_render hb with hrb | ⟨-, hrb⟩
    · rw [h, hrb] at hra
      exact (Except.ok.inj hra).symm
    · rw [h, hrb] at hra
      cases hra
  · rcases parse_render hb with hrb | ⟨⟨pb, hpb⟩, -⟩
    · rw [h, hrb] at hra
      cases hra
    · -- neither text is read, but the payloads are still the same bytes
      rw [render_of_payload hpa, render_of_payload hpb] at h
      have hdecode := congrArg Base58.decodeChecked (String.ofList_injective h)
      rw [Base58.decode_checked_encode_checked, Base58.decode_checked_encode_checked] at hdecode
      have hok := of_payload_eq_ok hpa ha
      rw [Option.some.inj hdecode, of_payload_eq_ok hpb hb] at hok
      exact (Except.ok.inj hok).symm

/-- No character of an address is blank or beyond ASCII. -/
theorem render_visible (a : Address) (hf : a.Fits) :
    ∀ c ∈ a.render.toList, Bech32.isLabelChar c = true := by
  cases hp : a.payload? with
  | some payload =>
    rw [render_of_payload hp, String.toList_ofList]
    exact Base58.encode_checked_visible payload
  | none =>
    obtain ⟨zone, version, program, rfl⟩ := eq_witness_of_payload hp
    obtain ⟨hversion, -, -⟩ := Bech32.program_fits_bounds hf
    rw [render, String.toList_ofList]
    exact Bech32.forall_mem_encode_chars hversion program (Bech32.zone_label_fits zone).visible rfl
      Bech32.digit_visible

theorem trim_render {a : Address} (hf : a.Fits) : Text.trim a.render = a.render := by
  have h := Text.trim_of_visible (render_visible a hf)
  rwa [String.ofList_toList] at h

theorem script_of_render {network : Network} {a : Address} (hf : a.Fits)
    (hv : a.validOn network = true) :
    scriptOfAddress network a.render =
      match parse a.render with
      | .ok _ => .ok a.script
      | .error fault => .error (.address a.render fault) := by
  rw [scriptOfAddress, trim_render hf]
  rcases parse_render hf with hr | ⟨-, hr⟩
  · rw [hr]
    simp only [hv, if_true]
  · rw [hr]

end Address

/-- What a script pays to is shown as the address text of the script. -/
theorem Script.address_of_some {network : Network} {s : Script} {a : Address}
    (h : Address.ofScript? network s = some a) : Script.address? network s = some a.render := by
  rw [Script.address?, h]
  rfl

/-- Witness programs have addresses that lead back to them. Hashes have addresses that do so unless
they happen to be well-formed segwit texts as well. No address leads to another script, or is
another script's address on the network. -/
theorem Script.address_leads_back (network : Network) (s : Script) :
    (Template.of s ∈ [.witnessKeyHash, .witnessScriptHash, .taproot] →
      ∃ text, Script.address? network s = some text ∧ scriptOfAddress network text = .ok s) ∧
    (Template.of s ∈ [.publicKeyHash, .scriptHash] →
      ∃ text, Script.address? network s = some text ∧
        (Bech32.decodeChars text.toList = none → scriptOfAddress network text = .ok s)) ∧
    ∀ text, Script.address? network s = some text →
      (∀ s', scriptOfAddress network text = .ok s' → s' = s) ∧
      ∀ s', Script.address? network s' = some text → s' = s := by
  refine ⟨?_, ?_, ?_⟩
  · intro hform
    obtain ⟨version, program, ha⟩ := Address.of_script_witness_form network hform
    obtain ⟨hscript, hvalid, hfits⟩ := Address.of_script_eq_some ha
    refine ⟨_, Script.address_of_some ha, ?_⟩
    rw [Address.script_of_render hfits hvalid, Address.parse_of_witness hfits, hscript]
  · intro hform
    -- a text in digits of base 58 is read as segwit first, which has to fail
    obtain ⟨a, payload, ha, hp⟩ := Address.of_script_hash_form network hform
    obtain ⟨hscript, hvalid, hfits⟩ := Address.of_script_eq_some ha
    refine ⟨_, Script.address_of_some ha, ?_⟩
    intro hs
    rw [Address.script_of_render hfits hvalid, Address.parse_of_payload hp hfits hs, hscript]
  · intro text h
    obtain ⟨a, ha, rfl⟩ := Option.map_eq_some_iff.mp h
    obtain ⟨hscript, hvalid, hfits⟩ := Address.of_script_eq_some ha
    constructor
    · intro s' h'
      rw [Address.script_of_render hfits hvalid, hscript] at h'
      split at h'
      · exact (Except.ok.inj h').symm
      · cases h'
    · intro s' h'
      obtain ⟨a', ha', hrender⟩ := Option.map_eq_some_iff.mp h'
      obtain ⟨hscript', -, hfits'⟩ := Address.of_script_eq_some ha'
      rw [← hscript', ← hscript, Address.render_injective hfits' hfits hrender]

def zeroKeyHash : Script := [0x76, 0xa9, 0x14] ++ List.replicate 20 0 ++ [0x88, 0xac]

def keyHashProgram : Script :=
  [0x00, 0x14, 0x75, 0x1e, 0x76, 0xe8, 0x19, 0x91, 0x96, 0xd4, 0x54, 0x94, 0x1c, 0x45, 0xd1, 0xb3,
   0xa3, 0x23, 0xf1,
   0x43, 0x3b, 0xd6]

/-- The addresses of the two scripts. They are computed here once for all that is said about these
texts. -/
theorem key_hash_texts :
    Script.address? .bitcoin zeroKeyHash = some "1111111111111111111114oLvT2" ∧
      Script.address? .bitcoin keyHashProgram = some "bc1qw508d6qejxtdg4y5r3zarvary0c5xw7kv8f3t4" ∧
      scriptOfAddress .testnet "tb1qw508d6qejxtdg4y5r3zarvary0c5xw7kxpjzsx" = .ok keyHashProgram ∧
      Bech32.decodeChars "1111111111111111111114oLvT2".toList = none := by
  have htext : Script.address? .bitcoin zeroKeyHash = some (String.ofList (Base58.encodeChars
      (0x00 :: List.replicate 20 0 ++ Base58.checksum (0x00 :: List.replicate 20 0)))) := rfl
  -- the checksum is computed once, and not again for each of its bytes
  have hsum : Base58.checksum (0x00 :: List.replicate 20 0) = [0x94, 0xa0, 0x09, 0x11] := by
    decide +kernel
  rw [htext, hsum]
  exact ⟨by decide +kernel, by decide +kernel, by decide +kernel, by decide +kernel⟩

/-- The two kinds of address that a key hash has. -/
theorem Script.address_leads_back_from_key_hashes :
    Script.address? .bitcoin zeroKeyHash = some "1111111111111111111114oLvT2" ∧
    scriptOfAddress .bitcoin "1111111111111111111114oLvT2" = .ok zeroKeyHash ∧
    Script.address? .bitcoin keyHashProgram = some "bc1qw508d6qejxtdg4y5r3zarvary0c5xw7kv8f3t4" ∧
    scriptOfAddress .bitcoin "bc1qw508d6qejxtdg4y5r3zarvary0c5xw7kv8f3t4" = .ok keyHashProgram ∧
    ∀ s', Script.address? .bitcoin s' = some "1111111111111111111114oLvT2" → s' = zeroKeyHash := by
  obtain ⟨hzero, hprogram, -, hbase58⟩ := key_hash_texts
  refine ⟨hzero, ?_, hprogram, ?_, ?_⟩
  · obtain ⟨text, htext, hback⟩ := (Script.address_leads_back .bitcoin zeroKeyHash).2.1 (by decide)
    obtain rfl := Option.some.inj (hzero.symm.trans htext)
    exact hback hbase58
  · obtain ⟨text, htext, hback⟩ := (Script.address_leads_back .bitcoin keyHashProgram).1 (by decide)
    obtain rfl := Option.some.inj (hprogram.symm.trans htext)
    exact hback
  · exact ((Script.address_leads_back .bitcoin zeroKeyHash).2.2 _ hzero).2

end ChainLens
