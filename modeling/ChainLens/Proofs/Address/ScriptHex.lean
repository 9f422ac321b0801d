import ChainLens.Proofs.Address.NetworksApart

/-!
Scripts in hexadecimal where an address may stand. Such a text is tried as an address first, so it
is understood as the script if it is no address. On the test networks it never is: their addresses
begin with characters that are no hexadecimal digits, or are odd in length. On the main network it
can be, but only where the script begins with a byte with which no form begins.
-/

namespace ChainLens

theorem Hex.digit_visible : ∀ n < 16, Bech32.isLabelChar (digit n) = true := by decide

theorem Hex.trim_encode (bytes : Bytes) : Text.trim (encode bytes) = encode bytes := by
  apply Text.trim_of_visible
  intro c hc
  obtain ⟨n, hn, rfl⟩ := mem_encode_chars hc
  exact digit_visible n hn

/-- Digits are written in lower case. -/
theorem Hex.map_lower_encode_chars (bytes : Bytes) :
    (encodeChars bytes).map Bech32.lower = encodeChars bytes := by
  have hlower : ∀ n < 16, Bech32.lower (digit n) = digit n := by decide
  have hall : ∀ c ∈ encodeChars bytes, Bech32.lower c = id c := by
    intro c hc
    obtain ⟨n, hn, rfl⟩ := mem_encode_chars hc
    exact hlower n hn
  rw [List.map_congr_left hall, List.map_id]

namespace Address

/-- The first digits of scripts in hexadecimal that may be read as addresses. -/
def hexLeads : List Char := ['1', '3', 'b']

/-- The only label that is written in hexadecimal digits is that of the main network. -/
theorem eq_main_of_hex_label {zone : SegwitZone} (h : ∀ c ∈ zone.label, ∃ n < 16, c = Hex.digit n) :
    zone = .main := by
  have hdigits : ∀ n < 16, 't' ≠ Hex.digit n := by decide
  cases zone with
  | main => rfl
  | test =>
    obtain ⟨n, hn, hc⟩ := h 't' (by decide)
    exact absurd hc (hdigits n hn)
  | regtest =>
    obtain ⟨n, hn, hc⟩ := h 't' (by decide)
    exact absurd hc (hdigits n hn)

/-- Only one label consists of digits, that of the main chain. -/
theorem main_of_segwit_hex {bytes : Bytes} {parts : Bech32.Parts} {zone : SegwitZone}
    (h : Bech32.decodeChars (Hex.encodeChars bytes) = some parts)
    (hlabel : zone.label = parts.label) :
    zone = .main ∧ ∃ c ∈ hexLeads, (Hex.encodeChars bytes).head? = some c := by
  have hwritten := Bech32.encode_chars_decode_chars h
  rw [Bech32.encode_chars_eq, ← hlabel, Hex.map_lower_encode_chars] at hwritten
  have hmain : zone = .main := by
    apply eq_main_of_hex_label
    intro c hc
    have hmem : c ∈ Hex.encodeChars bytes := by
      rw [← hwritten]
      exact List.mem_append_left _ hc
    exact Hex.mem_encode_chars hmem
  refine ⟨hmain, 'b', by decide, ?_⟩
  rw [← hwritten, hmain]
  rfl

/-- Digits that are an address in base58 as well are one of the main chain. -/
theorem main_of_base58_hex {bytes payload : Bytes} {a : Address}
    (h : Base58.decodeChecked (Hex.encodeChars bytes) = some payload)
    (ha : ofPayload payload = .ok a) :
    a.validOn .bitcoin = true ∧ ∃ c ∈ hexLeads, (Hex.encodeChars bytes).head? = some c := by
  obtain ⟨hkept, hfits⟩ := payload_of_ok ha
  obtain ⟨version, hash, rfl, hversion, hlength⟩ := payload_frame hkept hfits
  have hwritten := Base58.encode_checked_decode_checked h
  obtain ⟨⟨c, hc, hhead⟩, hodd⟩ := Base58.begin_encode_checked hversion hlength
  rw [hwritten] at hhead hodd
  obtain ⟨n, hn, rfl⟩ := Hex.mem_encode_chars (List.mem_of_head? hhead)
  simp only [List.mem_cons, List.not_mem_nil, or_false] at hversion
  obtain rfl | rfl | rfl | rfl := hversion
  · have hlead : Base58.versionChars 0x00 ⊆ hexLeads := by decide
    have hkey : ofPayload (0x00 :: hash) = .ok (publicKeyHash false hash) :=
      of_payload_eq_ok rfl hlength
    obtain rfl := Except.ok.inj (ha.symm.trans hkey)
    exact ⟨rfl, _, hlead hc, hhead⟩
  · have hlead : Base58.versionChars 0x05 ⊆ hexLeads := by decide
    have hscript : ofPayload (0x05 :: hash) = .ok (scriptHash false hash) :=
      of_payload_eq_ok rfl hlength
    obtain rfl := Except.ok.inj (ha.symm.trans hscript)
    exact ⟨rfl, _, hlead hc, hhead⟩
  · have hdigits : ∀ n < 16, Hex.digit n ∉ Base58.versionChars 0x6f := by decide
    exact absurd hc (hdigits n hn)
  · -- a byte is written in two digits, and the texts of this version byte are odd in length
    have hlength := hodd rfl
    rw [Hex.length_encode_chars] at hlength
    omega

/-- A script in hexadecimal is an address of no test network. -/
theorem main_of_hex {network : Network} {bytes : Bytes} {a : Address}
    (h : parse (Hex.encode bytes) = .ok a)
    (hv : a.validOn network = true) :
    network = .bitcoin ∧ ∃ c ∈ hexLeads, (Hex.encodeChars bytes).head? = some c := by
  have htext : (Hex.encode bytes).toList = Hex.encodeChars bytes := String.toList_ofList
  rcases parse_eq_ok h with ⟨parts, zone, hparts, hlabel, rfl⟩ | ⟨-, payload, hpayload, hok⟩
  · rw [htext] at hparts
    obtain ⟨rfl, hhead⟩ := main_of_segwit_hex hparts hlabel
    refine ⟨?_, hhead⟩
    exact eq_bitcoin_of_valid_on rfl hv
  · rw [htext] at hpayload
    obtain ⟨hmain, hhead⟩ := main_of_base58_hex hpayload hok
    exact ⟨eq_bitcoin_of_valid_on hmain hv, hhead⟩

/-- The first byte of an address's script. -/
theorem script_begins (a : Address) (hf : a.Fits) :
    ∃ first rest, a.script = first :: rest ∧ first.toNat / 16 ∉ [1, 3, 11] := by
  cases a with
  | publicKeyHash isTest hash => exact ⟨0x76, _, rfl, by decide⟩
  | scriptHash isTest hash => exact ⟨0xa9, _, rfl, by decide⟩
  | witness zone version program =>
    have hversions : ∀ n ≤ 16, (versionOperation n).toNat / 16 ∉ [1, 3, 11] := by decide
    obtain ⟨hversion, -, -⟩ := Bech32.program_fits_bounds hf
    exact ⟨versionOperation version, _, rfl, hversions version hversion⟩

end Address

/-- No form begins with a byte whose first digit can begin an address. -/
theorem Template.no_hex_lead_of_beginning {t : Template} {first : UInt8}
    (h : t ∈ beginningWith first) :
    first.toNat / 16 ∉ [1, 3, 11] := by
  unfold beginningWith at h
  split_ifs at h with hone hnumber hzero hkey hhash hpush hdata
  · rw [hone]
    decide
  -- small numbers are the codes from 0x51 to 0x60
  · obtain ⟨n, hn⟩ := Option.isSome_iff_exists.mp hnumber
    obtain ⟨hlow, hhigh, hcode⟩ := Script.small_number_eq_some hn
    have hall : ∀ n ≤ 16, 1 ≤ n → (UInt8.ofNat (0x50 + n)).toNat / 16 ∉ [1, 3, 11] := by decide
    rw [hcode]
    exact hall n hhigh hlow
  · rw [hzero]
    decide
  · rw [hkey]
    decide
  · rw [hhash]
    decide
  · rcases hpush with hpush | hpush
    · rw [hpush]
      decide
    · rw [hpush]
      decide
  · rw [hdata]
    decide
  · cases h

/-- No form begins with a byte whose first digit an address can have. -/
theorem Template.of_hex_lead {first : UInt8} (h : first.toNat / 16 ∈ [1, 3, 11]) (rest : Script) :
    Template.of (first :: rest) = .nonstandard := by
  apply of_eq_nonstandard_iff.mpr
  intro t ht
  apply Bool.eq_false_iff.mpr
  intro htest
  obtain ⟨first', rest', hs, hbegins⟩ := mem_beginning_with ht htest
  obtain ⟨rfl, -⟩ := List.cons.inj hs
  exact no_hex_lead_of_beginning hbegins h

theorem Hex.lead_of_head {bytes : Bytes} {c : Char} (hc : c ∈ Address.hexLeads)
    (h : (encodeChars bytes).head? = some c) :
    ∃ first rest, bytes = first :: rest ∧ first.toNat / 16 ∈ [1, 3, 11] := by
  cases bytes with
  | nil => cases h
  | cons first rest =>
    have hdigits : ∀ n < 16, digit n ∈ Address.hexLeads → n ∈ [1, 3, 11] := by decide
    have hfirst := first.toNat_lt
    refine ⟨first, rest, rfl, hdigits _ (by omega) ?_⟩
    rw [Option.some.inj h]
    exact hc

/-- A script in hexadecimal that is read as an address is read as another script, on the main
network only, and has no form of its own. -/
theorem Script.address_of_hex {network : Network} {s s' : Script}
    (h : scriptOfAddress network (Hex.encode s) = .ok s') :
    network = .bitcoin ∧ Template.of s = .nonstandard ∧ s' ≠ s := by
  obtain ⟨a, hparse, hvalid, rfl⟩ := script_of_address_eq_ok.mp h
  rw [Hex.trim_encode] at hparse
  obtain ⟨hnetwork, c, hc, hhead⟩ := Address.main_of_hex hparse hvalid
  obtain ⟨first, rest, rfl, hlead⟩ := Hex.lead_of_head hc hhead
  refine ⟨hnetwork, Template.of_hex_lead hlead rest, ?_⟩
  intro heq
  -- the script of the address begins with another byte
  obtain ⟨first', rest', hscript, hother⟩ :=
    Address.script_begins a (Address.render_of_parse hparse).1
  obtain ⟨rfl, -⟩ := List.cons.inj (hscript.symm.trans heq)
  exact hother hlead

theorem script_of_hex_address {network : Network} {s s' : Script}
    (h : scriptOfAddress network (Hex.encode s) = .ok s') :
    scriptOfText network (Hex.encode s) = .ok s' := by
  -- the equation of the definition takes Lean long to make, so the definition is opened without it
  delta scriptOfText
  simp only [Hex.trim_encode, h]

/-- Digits that are no address of the network are read as a script. -/
theorem script_of_hex {network : Network} {s : Script} (hs : s ≠ [])
    (h : ∀ s', scriptOfAddress network (Hex.encode s) ≠ .ok s') :
    scriptOfText network (Hex.encode s) = .ok s := by
  obtain ⟨first, rest, rfl⟩ := List.exists_cons_of_ne_nil hs
  delta scriptOfText
  cases haddress : scriptOfAddress network (Hex.encode (first :: rest)) with
  | ok s' => exact absurd haddress (h s')
  | error refusal => simp only [Hex.trim_encode, haddress, Hex.decode_encode]

/-- A script in hexadecimal is understood as that script unless it is an address too, and then it is
understood as the address. It is no address on a test network, and it is none on the main network
either if the script has a form. -/
theorem Script.hex_is_understood (network : Network) {s : Script} (hs : s ≠ []) :
    (scriptOfText network (Hex.encode s) = .ok s ↔
      ∀ s', scriptOfAddress network (Hex.encode s) ≠ .ok s') ∧
    (∀ s', scriptOfAddress network (Hex.encode s) = .ok s' →
      scriptOfText network (Hex.encode s) = .ok s') ∧
    (network ≠ .bitcoin ∨ Template.of s ≠ .nonstandard →
      scriptOfText network (Hex.encode s) = .ok s) := by
  refine ⟨⟨?_, script_of_hex hs⟩, fun s' => script_of_hex_address, ?_⟩
  · intro h s' haddress
    rw [script_of_hex_address haddress] at h
    exact (Script.address_of_hex haddress).2.2 (Except.ok.inj h)
  · intro h
    apply script_of_hex hs
    intro s' haddress
    obtain ⟨hnetwork, hform, -⟩ := Script.address_of_hex haddress
    rcases h with h | h
    · exact h hnetwork
    · exact h hform

theorem Script.hex_is_understood_of_key_hash :
    keyHashProgram ≠ [] ∧ Template.of keyHashProgram ≠ .nonstandard ∧
      scriptOfText .bitcoin (Hex.encode keyHashProgram) = .ok keyHashProgram := by
  have hne : keyHashProgram ≠ [] := by decide
  have hform : Template.of keyHashProgram ≠ .nonstandard := by decide
  exact ⟨hne, hform, (Script.hex_is_understood .bitcoin hne).2.2 (.inr hform)⟩

def addressInHex : Script := [0xbc, 0x10, 0x00, 0x00, 0x00, 0x60, 0x8c, 0x94, 0x48]

/-- It is understood as the script of that address. -/
theorem Script.not_every_hex_is_understood :
    ¬∀ (network : Network) (s : Script), s ≠ [] → scriptOfText network (Hex.encode s) = .ok s := by
  intro h
  have htext : Hex.encode addressInHex = "bc10000000608c9448" := by decide
  have haddress : scriptOfAddress .bitcoin (Hex.encode addressInHex) = .ok laterProgram := by
    rw [htext]
    exact accepted_texts.2.2
  have hscript : addressInHex = laterProgram :=
    Except.ok.inj
      ((h .bitcoin addressInHex (by decide)).symm.trans (script_of_hex_address haddress))
  exact absurd hscript (by decide)

end ChainLens
