import ChainLens.Proofs.Explorer.BlockPaths

/-!
Lists of summaries. A list begins at the height asked for, goes up height by height and stops at its
limit or at the tip, and each line is about the block that the source names for its height. The
greatest height of 32 bits is never reached.
-/

namespace ChainLens.Explorer

open Lookup

variable {source : Source Id}

/-- The block that the source names for a height loads, and this is its summary. -/
def Summarizes (source : Source Id) (height : Nat) (s : BlockSummary) : Prop :=
  ∃ hash report, source.answer (.blockAt (UInt32.ofNat height)) = .ok hash ∧
    (blockByHash hash).outcome source = .ok report ∧ s = report.summary

/-- A line of the list is the summary of the block at its height. -/
theorem outcome_summary_at {height : Nat} {s : BlockSummary} :
    (summaryAt height).outcome source = .ok s ↔ Summarizes source height s := by
  rw [summaryAt, outcome_bind, bind_eq_ok]
  constructor
  · rintro ⟨hash, hhash, hs⟩
    rw [outcome_bind, bind_eq_ok] at hs
    obtain ⟨report, hreport, hs⟩ := hs
    exact ⟨hash, report, hhash, hreport, (Except.ok.inj hs).symm⟩
  · rintro ⟨hash, report, hhash, hreport, rfl⟩
    refine ⟨hash, hhash, ?_⟩
    rw [outcome_bind, bind_eq_ok]
    exact ⟨report, hreport, rfl⟩

def lineCount (start limit tip : UInt32) : Nat :=
  min limit.toNat (min (tip.toNat + 1) (UInt32.size - 1) - start.toNat)

/-- Below the greatest tip there is a line for each height up to the tip, as far as the limit
goes. -/
theorem line_count_eq {start limit tip : UInt32} (htip : tip.toNat + 1 < UInt32.size) :
    lineCount start limit tip = min limit.toNat (tip.toNat + 1 - start.toNat) := by
  have hmin : min (tip.toNat + 1) (UInt32.size - 1) = tip.toNat + 1 := by omega
  rw [lineCount, hmin]

/-- The list stops at the tip or at the limit, whichever comes first. -/
theorem stop_sub_start (start limit tip : UInt32) :
    min (addUpTo32 start.toNat limit.toNat) (addUpTo32 tip.toNat 1) - start.toNat =
      lineCount start limit tip := by
  have hstart : start.toNat < UInt32.size := start.toNat_lt
  simp only [addUpTo32, lineCount]
  omega

/-- A list of consecutive numbers, line by line. -/
theorem mapM_range_eq_ok {ε α : Type} {f : Nat → Except ε α} {start count : Nat} {l : List α} :
    (List.range' start count).mapM f = .ok l ↔
      l.length = count ∧ ∀ i a, l[i]? = some a → f (start + i) = .ok a := by
  rw [mapM_eq_ok, List.forall₂_iff_get]
  have hcount : (List.range' start count).length = count := List.length_range'
  constructor
  · rintro ⟨hlength, hall⟩
    refine ⟨hlength.symm.trans hcount, ?_⟩
    intro i a ha
    obtain ⟨hi, rfl⟩ := List.getElem?_eq_some_iff.mp ha
    have h := hall i (hlength ▸ hi) hi
    simpa only [List.get_eq_getElem, List.getElem_range', Nat.one_mul] using h
  · rintro ⟨hlength, hall⟩
    refine ⟨hcount.trans hlength.symm, ?_⟩
    intro i _ hi
    have h := hall i l[i] (List.getElem?_eq_getElem hi)
    simpa only [List.get_eq_getElem, List.getElem_range', Nat.one_mul] using h

theorem exists_mapM_range {ε α : Type} {f : Nat → Except ε α} {start count : Nat}
    (h : ∀ i < count, ∃ a, f (start + i) = .ok a) :
    ∃ l, (List.range' start count).mapM f = .ok l := by
  induction count generalizing start with
  | zero => exact ⟨[], rfl⟩
  | succ count ih =>
    obtain ⟨a, ha⟩ := h 0 (Nat.succ_pos count)
    have hrest : ∀ i < count, ∃ a, f (start + 1 + i) = .ok a := by
      intro i hi
      obtain ⟨b, hb⟩ := h (i + 1) (Nat.succ_lt_succ hi)
      exact ⟨b, by rwa [Nat.add_assoc, Nat.add_comm 1 i]⟩
    obtain ⟨l, hl⟩ := ih hrest
    refine ⟨a :: l, ?_⟩
    rw [Nat.add_zero] at ha
    rw [List.range'_succ, List.mapM_cons, ha, hl]
    rfl

/-- With the tip known, a list is made line by line from the start to the stop. -/
theorem outcome_summaries {tip start : Height} {limit : UInt32}
    (htip : source.answer .tip = .ok tip)
    (hlimit : limit ≠ 0) :
    (summaries start limit).outcome source =
      if tip < start then .ok []
      else (List.range' start.toNat (lineCount start limit tip)).mapM fun height =>
        (summaryAt height).outcome source := by
  rw [summaries, if_neg hlimit, ← stop_sub_start]
  change (Lookup.ask .tip >>= _).outcome source = _
  rw [outcome_ask_bind, htip]
  by_cases h : tip < start
  · simp only [Except.bind, if_pos h, outcome_pure]
  · simp only [Except.bind, if_neg h, outcome_mapM]

/-- What a list of summaries is, by the tip that the source gives. -/
structure ListsHeights (source : Source Id) (tip start : Height) (limit : UInt32) : Prop where
  above_tip : tip < start → (summaries start limit).outcome source = .ok []
  /-- One block that does not load is enough to have no list. -/
  lines : start ≤ tip → ∀ page, (summaries start limit).outcome source = .ok page ↔
    page.length = lineCount start limit tip ∧ ∀ i s, page[i]? = some s →
      Summarizes source (start.toNat + i) s
  loads : start ≤ tip →
      (∀ i < lineCount start limit tip, ∃ s, Summarizes source (start.toNat + i) s) →
    ∃ page, (summaries start limit).outcome source = .ok page
  /-- Below the greatest height of 32 bits, the list goes on to its limit or to the tip. -/
  count : start ≤ tip → tip.toNat + 1 < UInt32.size →
    lineCount start limit tip = min limit.toNat (tip.toNat - start.toNat + 1)

/-- Up to its limit a list covers all heights from the start to the tip, as long as the number after
the tip has 32 bits. -/
theorem summaries_list_heights {tip : Height} (htip : source.answer .tip = .ok tip) (start : Height)
    {limit : UInt32}
    (hlimit : limit ≠ 0) : ListsHeights source tip start limit where
  above_tip h := by rw [outcome_summaries htip hlimit, if_pos h]
  lines h page := by
    rw [outcome_summaries htip hlimit, if_neg (UInt32.not_lt.mpr h), mapM_range_eq_ok]
    simp only [outcome_summary_at]
  loads h hall := by
    rw [outcome_summaries htip hlimit, if_neg (UInt32.not_lt.mpr h)]
    apply exists_mapM_range
    intro i hi
    obtain ⟨s, hs⟩ := hall i hi
    exact ⟨s, outcome_summary_at.mpr hs⟩
  count h hroom := by
    have hle : start.toNat ≤ tip.toNat := UInt32.le_iff_toNat_le.mp h
    have hsub : tip.toNat + 1 - start.toNat = tip.toNat - start.toNat + 1 := by omega
    rw [line_count_eq hroom, hsub]

def blockAtTip (tip : Height) (hash : BlockHash) (bytes : Bytes) (t : Transaction) : Source Id :=
  Table.source { wholeTable hash bytes t with tip := some (.ok tip), blocksAt := [(tip, .ok hash)] }

/-- A block that decodes has a summary at the tip. -/
theorem block_at_tip_summarizes (tip : Height) {bytes : Bytes} {b : Block}
    (hd : Block.decode bytes = .ok b)
    (t : Transaction) : ∃ s, Summarizes (blockAtTip tip b.header.hash bytes t) tip.toNat s := by
  generalize hh : b.header.hash = hash
  have hat : (blockAtTip tip hash bytes t).answer (.blockAt (UInt32.ofNat tip.toNat)) =
      Except.ok hash := by
    rw [UInt32.ofNat_toNat]
    exact Table.find_cons_self "heights" (fun h => toString h.toNat) tip (.ok hash) []
  have hbytes : (blockAtTip tip hash bytes t).answer (.blockBytes hash) = Except.ok bytes :=
    Table.find_cons_self (κ := BlockHash) ..
  have hfacts : (blockAtTip tip hash bytes t).answer (.blockFacts hash) =
      Except.ok ⟨hash, 5, 0, 0, 0, none, []⟩ :=
    Table.find_cons_self (κ := BlockHash) ..
  have hreport : (blockByHash hash).outcome (blockAtTip tip hash bytes t) = .ok (reportOf b 5) := by
    rw [outcome_block_by_hash, outcome_load_whole hbytes hfacts hd, if_pos hh]
    rfl
  exact ⟨(reportOf b 5).summary, hash, reportOf b 5, hat, hreport, rfl⟩

def singleAtTip (tip : Height) : Source Id :=
  blockAtTip tip singleBlock.header.hash singleBlockBytes TxRecord.twoElements

theorem single_at_tip_summarizes (tip : Height) : ∃ s, Summarizes (singleAtTip tip) tip.toNat s :=
  block_at_tip_summarizes tip (b := singleBlock) rfl TxRecord.twoElements

/-- From the tip on there is one line, whatever the limit. -/
theorem summaries_list_heights_at_tip :
    (singleAtTip 7).answer .tip = Except.ok (7 : Height) ∧ (3 : UInt32) ≠ 0 ∧
      ∃ page, (summaries 7 3).outcome (singleAtTip 7) = .ok page ∧ page.length = 1 := by
  have hlimit : (3 : UInt32) ≠ 0 := by decide
  have hlists : ListsHeights (singleAtTip 7) 7 7 3 := summaries_list_heights rfl 7 hlimit
  obtain ⟨page, hpage⟩ := hlists.loads (UInt32.le_refl 7) (by
    intro i hi
    have hzero : i = 0 := Nat.lt_one_iff.mp hi
    subst hzero
    exact single_at_tip_summarizes 7)
  exact ⟨rfl, hlimit, page, hpage, ((hlists.lines (UInt32.le_refl 7) page).mp hpage).1⟩

/-- At the greatest height of 32 bits the block at the tip is left out. -/
theorem not_every_tip_listed : ¬ ∀ (source : Source Id) (tip start : Height) (limit : UInt32),
    source.answer .tip = Except.ok tip → limit ≠ 0 → start ≤ tip →
    (∀ i < min limit.toNat (tip.toNat - start.toNat + 1), ∃ s,
      Summarizes source (start.toNat + i) s) →
    ∃ page, (summaries start limit).outcome source = .ok page ∧
      page.length = min limit.toNat (tip.toNat - start.toNat + 1) := by
  intro h
  obtain ⟨page, hpage, hlength⟩ :=
    h (singleAtTip 0xffffffff) 0xffffffff 0xffffffff 1 rfl (by decide)
    (UInt32.le_refl _) (by
      intro i hi
      have hzero : i = 0 := Nat.lt_one_iff.mp hi
      subst hzero
      exact single_at_tip_summarizes 0xffffffff)
  -- the stop cannot be one more than the tip, so it is the tip itself, and the tip is not reached
  have hempty : (summaries 0xffffffff 1).outcome (singleAtTip 0xffffffff) = .ok [] := by rfl
  rw [hempty] at hpage
  obtain rfl := Except.ok.inj hpage
  cases hlength

end ChainLens.Explorer
