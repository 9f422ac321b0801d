import ChainLens.Proofs.Address.Accepted

/-!
Networks do not mix. A text is read as one address before any network is looked at, and that address
belongs to one of four groups of networks: the main one, the test networks of one segwit label, the
one of the other label, or all test networks together.
-/

namespace ChainLens

def Network.groups : List (List Network) :=
  [[.bitcoin], [.testnet, .testnet4, .signet], [.regtest], [.testnet, .testnet4, .signet, .regtest]]

namespace Address

/-- The networks of an address make up one of the groups. -/
theorem networks_mem_groups (a : Address) :
    Network.all.filter (fun n => a.validOn n) ∈ Network.groups := by
  -- whether an address is valid depends on its version byte or its label only
  have hbyte : ∀ isTest : Bool,
      (Network.all.filter fun n => isTest == n.isTest) ∈ Network.groups := by decide
  have hlabel : ∀ zone : SegwitZone,
      (Network.all.filter fun n => zone == n.zone) ∈ Network.groups := by
    intro zone
    cases zone <;> decide
  cases a with
  | publicKeyHash isTest hash => exact hbyte isTest
  | scriptHash isTest hash => exact hbyte isTest
  | witness zone version program => exact hlabel zone

/-- The main chain has no address in common with another network. -/
theorem eq_bitcoin_of_valid_on {a : Address} {network : Network} (hb : a.validOn .bitcoin = true)
    (hv : a.validOn network = true) : network = .bitcoin := by
  have hb' : Network.bitcoin ∈ Network.all.filter fun n => a.validOn n :=
    List.mem_filter.mpr ⟨Network.mem_all .bitcoin, hb⟩
  have hv' : network ∈ Network.all.filter fun n => a.validOn n :=
    List.mem_filter.mpr ⟨Network.mem_all network, hv⟩
  have hgroups : ∀ group ∈ Network.groups, Network.bitcoin ∈ group →
      ∀ n ∈ group, n = .bitcoin := by decide
  exact hgroups _ (networks_mem_groups a) hb' network hv'

/-- What is written as an address is read as that address if it is read at all. -/
theorem eq_of_parse_render {a b : Address} (hf : a.Fits) (h : parse a.render = .ok b) : b = a := by
  rcases parse_render hf with hr | ⟨-, hr⟩
  · rw [hr] at h
    exact (Except.ok.inj h).symm
  · rw [hr] at h
    cases h

/-- A text stands for one script on the networks of one group, or on none, and what is written as an
address of the main network is an address of no other. -/
theorem networks_stay_apart :
    (∀ text, ∃ accepting ∈ [] :: Network.groups, ∃ s, ∀ network s',
      scriptOfAddress network text = .ok s' ↔ network ∈ accepting ∧ s' = s) ∧
    ∀ s text network s', Script.address? .bitcoin s = some text →
      scriptOfAddress network text = .ok s' → network = .bitcoin ∧ s' = s := by
  constructor
  · intro text
    -- the text is read before any network is looked at, so one address answers for all of them
    cases hparse : parse (Text.trim text) with
    | error fault =>
      refine ⟨[], List.mem_cons_self, [], ?_⟩
      intro network s'
      rw [script_of_address_eq_ok, hparse]
      simp
    | ok a =>
      refine ⟨Network.all.filter fun n => a.validOn n,
        List.mem_cons_of_mem _ (networks_mem_groups a), a.script, ?_⟩
      intro network s'
      rw [script_of_address_eq_ok, hparse, List.mem_filter]
      constructor
      · intro h
        obtain ⟨b, hb, hvalid, hscript⟩ := h
        obtain rfl := Except.ok.inj hb
        exact ⟨⟨Network.mem_all network, hvalid⟩, hscript.symm⟩
      · intro h
        exact ⟨a, rfl, h.1.2, h.2.symm⟩
  · intro s text network s' haddress h
    obtain ⟨a, ha, rfl⟩ := Option.map_eq_some_iff.mp haddress
    obtain ⟨hscript, hmain, hfits⟩ := of_script_eq_some ha
    obtain ⟨b, hparse, hvalid, rfl⟩ := script_of_address_eq_ok.mp h
    -- a text that was written may be refused, but it is never read as another address
    rw [trim_render hfits] at hparse
    obtain rfl := eq_of_parse_render hfits hparse
    exact ⟨eq_bitcoin_of_valid_on hmain hvalid, hscript⟩

theorem networks_stay_apart_for_two_texts :
    (scriptOfAddress .testnet "tb1qw508d6qejxtdg4y5r3zarvary0c5xw7kxpjzsx" = .ok keyHashProgram ∧
      scriptOfAddress .signet "tb1qw508d6qejxtdg4y5r3zarvary0c5xw7kxpjzsx" = .ok keyHashProgram ∧
      ∀ s', scriptOfAddress .bitcoin "tb1qw508d6qejxtdg4y5r3zarvary0c5xw7kxpjzsx" ≠ .ok s') ∧
    Script.address? .bitcoin zeroKeyHash = some "1111111111111111111114oLvT2" ∧
      ∀ s', scriptOfAddress .testnet "1111111111111111111114oLvT2" ≠ .ok s' := by
  obtain ⟨hzero, -, htestnet, -⟩ := key_hash_texts
  have hgroups : ∀ group ∈ [] :: Network.groups, .testnet ∈ group → .signet ∈ group ∧
      .bitcoin ∉ group := by decide
  obtain ⟨accepting, hmem, s, hall⟩ :=
    networks_stay_apart.1 "tb1qw508d6qejxtdg4y5r3zarvary0c5xw7kxpjzsx"
  obtain ⟨htest, hscript⟩ := (hall .testnet keyHashProgram).mp htestnet
  obtain ⟨hsignet, hmain⟩ := hgroups accepting hmem htest
  refine ⟨⟨htestnet, (hall .signet _).mpr ⟨hsignet, hscript⟩, ?_⟩, hzero, ?_⟩
  · intro s' h
    exact hmain ((hall .bitcoin s').mp h).1
  · intro s' h
    have hnetwork := (networks_stay_apart.2 zeroKeyHash _ .testnet s' hzero h).1
    cases hnetwork

end Address
end ChainLens
