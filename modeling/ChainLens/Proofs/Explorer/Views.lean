import ChainLens.Proofs.Explorer.Summaries
import ChainLens.Proofs.Source.Asked

/-!
The ways to look at a block. By itself, with its transactions and as a line in a list it is one and
the same block, under its hash as under its height; and what fails without the transactions fails in
the same way with them.
-/

namespace ChainLens.Explorer

open Lookup

variable {source : Source Id} {network : Network} {tip height start : Height} {ref : BlockRef}

/-- The views of the blocks of a source agree. -/
structure ViewsAgree (source : Source Id) (network : Network) : Prop where
  whole : ∀ ref w, (fullBlock network ref).outcome source = .ok w →
    (block ref).outcome source = .ok w.block
  failed : ∀ ref failure, (block ref).outcome source = .error failure →
    (fullBlock network ref).outcome source = .error failure
  /-- Up to the tip a height stands for the hash that the source names for it. -/
  named : ∀ tip height, source.answer .tip = .ok tip → height ≤ tip →
      ∀ hash, source.answer (.blockAt height) = .ok hash →
    (block (.height height)).outcome source = (block (.hash hash)).outcome source
  unnamed : ∀ tip height, source.answer .tip = .ok tip → height ≤ tip → ∀ failure,
    source.answer (.blockAt height) = .error failure → (block (.height height)).outcome source =
      .error failure
  /-- Above the tip there is no block, and all that has been asked is where the tip is. -/
  above : ∀ tip height, source.answer .tip = .ok tip → tip < height → ∀ asked,
    (block (.height height)).record source asked =
      ((.error (.notFound (.aboveTip height tip)),
        .tip :: asked) : Except Failure BlockReport × List Query)
  lines : ∀ start limit page, (summaries start limit).outcome source = .ok page →
      ∀ i s, page[i]? = some s →
    ∃ height report, height.toNat = start.toNat + i ∧
        (block (.height height)).outcome source = .ok report ∧
      s = report.summary ∧ s.txCount = report.txids.length

/-- The reports of its transactions leave a block as it is. -/
theorem block_of_completed {loaded : LoadedBlock} {w : FullBlockReport}
    (h : (completed network loaded).outcome source = .ok w) : w.block = loaded.report := by
  rw [completed] at h
  cases htransactions : loaded.transactions with
  | some ts =>
    simp only [htransactions, outcome_bind, bind_eq_ok, outcome_pure] at h
    obtain ⟨rs, -, h⟩ := h
    rw [← Except.ok.inj h]
  | none =>
    simp only [htransactions, outcome_bind, bind_eq_ok, outcome_pure] at h
    obtain ⟨rs, -, h⟩ := h
    rw [← Except.ok.inj h]

/-- A full block holds the report that the block has by itself. -/
theorem block_of_full_block {w : FullBlockReport}
    (h : (fullBlock network ref).outcome source = .ok w) :
    (block ref).outcome source = .ok w.block := by
  rw [outcome_full_block_resolved] at h
  obtain ⟨hash, hresolve, h⟩ := bind_eq_ok.mp h
  obtain ⟨loaded, hload, hw⟩ := bind_eq_ok.mp h
  have hblock : w.block = loaded.report := block_of_completed hw
  rw [outcome_block_resolved, hblock]
  exact bind_eq_ok.mpr ⟨hash, hresolve, bind_eq_ok.mpr ⟨loaded, hload, rfl⟩⟩

/-- Where a block fails, so does the full block, in the same way. -/
theorem full_block_of_failed {failure : Failure} (h : (block ref).outcome source = .error failure) :
    (fullBlock network ref).outcome source = .error failure := by
  rw [outcome_block_resolved] at h
  rw [outcome_full_block_resolved]
  apply bind_eq_error.mpr
  -- the reference has no hash, or the block with this hash does not load
  obtain hresolve | ⟨hash, hresolve, h⟩ := bind_eq_error.mp h
  · exact .inl hresolve
  · obtain hload | ⟨loaded, -, hreport⟩ := bind_eq_error.mp h
    · exact .inr ⟨hash, hresolve, bind_eq_error.mpr (.inl hload)⟩
    · cases hreport

/-- Up to the tip a block is found under its height as under the hash that the source names. -/
theorem outcome_block_at (htip : source.answer .tip = .ok tip) (hle : height ≤ tip) :
    (block (.height height)).outcome source =
      Except.bind (source.answer (.blockAt height)) fun hash =>
        (block (.hash hash)).outcome source := by
  have hnot : ¬ tip < height := UInt32.not_lt.mpr hle
  have hhash (hash : BlockHash) : (block (.hash hash)).outcome source =
      (blockByHash hash).outcome source := rfl
  simp only [hhash]
  rw [block, outcome_bind, resolve, outcome_hash_at htip, if_neg hnot]
  rfl

/-- Above the tip a block is missed after one question. -/
theorem record_block_above (htip : source.answer .tip = .ok tip) (habove : tip < height)
    (asked : List Query) :
    (block (.height height)).record source asked =
      ((.error (.notFound (.aboveTip height tip)),
        .tip :: asked) : Except Failure BlockReport × List Query) := by
  have hhash : (hashAt height).record source asked =
      ((.error (.notFound (.aboveTip height tip)),
        .tip :: asked) : Except Failure BlockHash × List Query) := by
    rw [hashAt, record_bind, record_ask, htip]
    change (if tip < height then throw (.notFound (.aboveTip height tip)) else
        Lookup.ask (.blockAt height)).record
      source (.tip :: asked) = _
    rw [if_pos habove, record_throw]
    rfl
  rw [block, record_bind, resolve, hhash]
  rfl

/-- A list that is not refused begins with the tip. -/
theorem tip_of_summaries {limit : UInt32} {page : List BlockSummary}
    (h : (summaries start limit).outcome source = .ok page) :
    limit ≠ 0 ∧ ∃ tip, source.answer .tip = .ok tip := by
  by_cases hlimit : limit = 0
  · rw [summaries, if_pos hlimit] at h
    cases h
  · rw [summaries, if_neg hlimit] at h
    change (Lookup.ask .tip >>= _).outcome source = _ at h
    rw [outcome_bind] at h
    obtain ⟨tip, htip, -⟩ := bind_eq_ok.mp h
    exact ⟨hlimit, tip, htip⟩

/-- A line of a list is about a block that is found under its height. -/
theorem block_of_line {limit : UInt32} {page : List BlockSummary}
    (h : (summaries start limit).outcome source = .ok page)
    {i : Nat} {s : BlockSummary} (hs : page[i]? = some s) :
    ∃ height report, height.toNat = start.toNat + i ∧
    (block (.height height)).outcome source = .ok report ∧
      s = report.summary := by
  obtain ⟨hlimit, tip, htip⟩ := tip_of_summaries h
  rw [outcome_summaries htip hlimit] at h
  by_cases habove : tip < start
  · rw [if_pos habove] at h
    obtain rfl := Except.ok.inj h
    cases hs
  · rw [if_neg habove, mapM_range_eq_ok] at h
    obtain ⟨hlength, hlines⟩ := h
    obtain ⟨hash, report, hhash, hreport, hsummary⟩ := outcome_summary_at.mp (hlines i s hs)
    -- the list ends at the tip, so the height of the line has 32 bits
    have hi : i < lineCount start limit tip := by
      rw [← hlength]
      exact (List.getElem?_eq_some_iff.mp hs).1
    have hle : start.toNat + i ≤ tip.toNat := by
      simp only [lineCount] at hi
      omega
    have hheight : (UInt32.ofNat (start.toNat + i)).toNat = start.toNat + i := by
      apply UInt32.toNat_ofNat_of_lt'
      exact Nat.lt_of_le_of_lt hle tip.toNat_lt
    have hbelow : UInt32.ofNat (start.toNat + i) ≤ tip := by
      rw [UInt32.le_iff_toNat_le, hheight]
      exact hle
    refine ⟨UInt32.ofNat (start.toNat + i), report, hheight, ?_, hsummary⟩
    rw [outcome_block_at htip hbelow, hhash]
    exact hreport

/-- A block by its hash, by its height, with its transactions and as a line of a list is one block:
where it is reported in one way it is the same in the others, and where it fails the full block
fails alike. -/
theorem views_agree (source : Source Id) (network : Network) : ViewsAgree source network where
  whole _ _ h := block_of_full_block h
  failed _ _ h := full_block_of_failed h
  named _ _ htip hle _ hhash := by rw [outcome_block_at htip hle, hhash]; rfl
  unnamed _ _ htip hle _ hhash := by rw [outcome_block_at htip hle, hhash]; rfl
  above _ _ htip habove asked := record_block_above htip habove asked
  lines start limit page h i s hs := by
    obtain ⟨height, report, hheight, hreport, rfl⟩ := block_of_line h hs
    exact ⟨height, report, hheight, hreport, rfl, rfl⟩

end ChainLens.Explorer
