import ChainLens.Web.Client
import Mathlib.Data.List.TakeWhile

/-!
Paths that go out as they are. A path of segments in letters, digits and dots that are not dots
alone is kept by every step of reading an address, so a request for it goes out to the very address
that was put together.
-/

namespace ChainLens.Web

/-- A segment of letters, digits and dots that stands for itself. -/
structure PlainSegment (segment : List Char) : Prop where
  chars : ∀ c ∈ segment, c.isAlphanum = true ∨ c = '.'
  not_dot : segment ≠ ['.']
  not_dots : segment ≠ ['.', '.']

def slashed (segments : List (List Char)) : List Char :=
  segments.flatMap fun segment => '/' :: segment

/-- A character of a path that no step of reading an address takes for anything else. -/
structure Harmless (c : Char) : Prop where
  visible : 0x20 < c.toNat
  ascii : c.toNat ≤ 0x7E
  unreserved : c ∉ Url.pathEscapes
  not_percent : c ≠ '%'
  not_backslash : c ≠ '\\'
  not_end : Url.isPathEnd c = false

theorem harmless_of_alphanum {c : Char} (h : c.isAlphanum = true ∨ c = '.') :
    Harmless c ∧ c ≠ '/' := by
  have hascii : c.toNat ≤ 0x7E := by
    obtain h | rfl := h
    · change ((decide (65 ≤ c.val ∧ c.val ≤ 90) || (decide (97 ≤ c.val) && decide (c.val ≤ 122))) ||
        (decide (48 ≤ c.val) && decide (c.val ≤ 57))) = true at h
      simp only [Bool.or_eq_true, Bool.and_eq_true, decide_eq_true_eq, UInt32.le_iff_toNat_le] at h
      change ((65 ≤ c.toNat ∧ c.toNat ≤ 90) ∨ (97 ≤ c.toNat ∧ c.toNat ≤ 122)) ∨
        (48 ≤ c.toNat ∧ c.toNat ≤ 57) at h
      omega
    · decide
  -- so it is one of few, each of which can be looked at
  have hall : ∀ n ≤ 0x7E, ((Char.ofNat n).isAlphanum = true ∨ Char.ofNat n = '.') →
      0x20 < (Char.ofNat n).toNat ∧ Char.ofNat n ∉ Url.pathEscapes ∧ Char.ofNat n ≠ '%' ∧
          Char.ofNat n ≠ '\\' ∧
        Url.isPathEnd (Char.ofNat n) = false ∧ Char.ofNat n ≠ '/' := by
    decide
  have hc := hall c.toNat hascii
  rw [Char.ofNat_toNat] at hc
  obtain ⟨hvisible, hunreserved, hpercent, hbackslash, hend, hslash⟩ := hc h
  exact ⟨⟨hvisible, hascii, hunreserved, hpercent, hbackslash, hend⟩, hslash⟩

theorem PlainSegment.harmless {segment : List Char} (h : PlainSegment segment) {c : Char}
    (hc : c ∈ segment) :
    Harmless c ∧ c ≠ '/' := harmless_of_alphanum (h.chars c hc)

theorem harmless_of_mem_slashed {segments : List (List Char)}
    (h : ∀ s ∈ segments, PlainSegment s) {c : Char}
    (hc : c ∈ slashed segments) : Harmless c := by
  obtain ⟨segment, hsegment, hmem⟩ := List.mem_flatMap.mp hc
  rcases List.mem_cons.mp hmem with rfl | hin
  · exact ⟨by decide, by decide, by decide, by decide, by decide, by decide⟩
  · exact ((h segment hsegment).harmless hin).1

def loopback : List Char := ['h', 't', 't', 'p', ':', '/', '/', '[', ':', ':', '1', ']']

def loopbackUrl (path : List Char) : Url where
  scheme := "http"
  user := none
  host := some "[::1]"
  socket := none
  path := String.ofList path
  query := none
  fragment := none

namespace Url

theorem drop_edges_visible {text : List Char} (h : ∀ c ∈ text, 0x20 < c.toNat) :
    text.dropWhile (fun c => decide (c.toNat ≤ 0x20)) = text := by
  cases text with
  | nil => rfl
  | cons c text =>
    have hc := h c List.mem_cons_self
    rw [List.dropWhile_cons_of_neg]
    simpa using hc

theorem filter_ignored_visible {text : List Char} (h : ∀ c ∈ text, 0x20 < c.toNat) :
    text.filter (fun c => !isIgnored c) = text := by
  apply List.filter_eq_self.mpr
  intro c hc
  have hvisible := h c hc
  have hkept : isIgnored c = false := by
    simp only [isIgnored, Bool.or_eq_false_iff, beq_eq_false_iff_ne]
    refine ⟨⟨?_, ?_⟩, ?_⟩
    all_goals
      rintro rfl
      exact absurd hvisible (by decide)
  rw [hkept]
  rfl

/-- Nothing is stripped from a text without blanks and controls. -/
theorem clean_visible {text : List Char} (h : ∀ c ∈ text, 0x20 < c.toNat) : clean text = text := by
  have hreverse : ∀ c ∈ text.reverse, 0x20 < c.toNat := fun c hc => h c (List.mem_reverse.mp hc)
  simp only [clean, drop_edges_visible h, drop_edges_visible hreverse, List.reverse_reverse]
  exact filter_ignored_visible h

theorem undot_of_no_percent {segment : List Char} (h : ∀ c ∈ segment, c ≠ '%') :
    undot segment = segment := by
  induction segment with
  | nil => rfl
  | cons c segment ih =>
    have hc : c ≠ '%' := h c List.mem_cons_self
    rw [undot, ih fun d hd => h d (List.mem_cons_of_mem c hd)]
    · intro _ hsame
      exact absurd hsame hc
    · intro _ hsame
      exact absurd hsame hc

/-- Visible ASCII that need not be escaped is kept. -/
theorem escape_kept {extra text : List Char} (h : ∀ c ∈ text, 0x20 ≤ c.toNat ∧
    c.toNat ≤ 0x7E ∧ c ∉ extra) :
    escape extra text = text := by
  induction text with
  | nil => rfl
  | cons c text ih =>
    obtain ⟨hvisible, hascii, hunreserved⟩ := h c List.mem_cons_self
    have hrest : escape extra text = text := ih fun d hd => h d (List.mem_cons_of_mem c hd)
    have hkept : (decide (0x20 ≤ c.toNat) && decide (c.toNat ≤ 0x7E) && !extra.contains c) =
        true := by
      simp [hvisible, hascii, hunreserved]
    rw [escape] at hrest ⊢
    rw [List.flatMap_cons, if_pos hkept, hrest]
    rfl

theorem escape_harmless {segment : List Char} (h : ∀ c ∈ segment, Harmless c) :
    escape pathEscapes segment = segment :=
  escape_kept fun c hc => ⟨Nat.le_of_lt (h c hc).visible, (h c hc).ascii, (h c hc).unreserved⟩

theorem add_segment_plain {segment : List Char} (h : PlainSegment segment)
    (before : List (List Char)) (isLast : Bool) :
    addSegment before isLast segment = segment :: before := by
  have hundot : undot segment = segment :=
    undot_of_no_percent fun c hc => (h.harmless hc).1.not_percent
  have hescape : escape pathEscapes segment = segment :=
    escape_harmless fun c hc => (h.harmless hc).1
  simp only [addSegment, hundot, hescape]
  split
  · next hsame => exact absurd rfl h.not_dots
  · next hsame => exact absurd rfl h.not_dot
  · rfl

/-- Plain segments are taken up as they are. -/
theorem add_segments_plain {segments : List (List Char)} (h : ∀ s ∈ segments, PlainSegment s)
    (before : List (List Char)) : addSegments before segments = segments.reverse ++ before := by
  induction segments generalizing before with
  | nil => rfl
  | cons segment segments ih =>
    have hfirst := h segment List.mem_cons_self
    cases segments with
    | nil => exact add_segment_plain hfirst before true
    | cons next others =>
      rw [addSegments, add_segment_plain hfirst, ih fun s hs => h s (List.mem_cons_of_mem _ hs)]
      · simp
      · exact List.cons_ne_nil _ _

theorem split_on_of_not_mem {sep : Char} {piece : List Char} (h : ∀ c ∈ piece, c ≠ sep) :
    Text.splitOn sep piece = [piece] := by
  induction piece with
  | nil => rfl
  | cons c piece ih =>
    rw [Text.splitOn, if_neg (h c List.mem_cons_self), ih fun d hd =>
      h d (List.mem_cons_of_mem c hd)]

theorem split_on_append {sep : Char} {piece : List Char} (h : ∀ c ∈ piece, c ≠ sep)
    (rest : List Char) :
    Text.splitOn sep (piece ++ sep :: rest) = piece :: Text.splitOn sep rest := by
  induction piece with
  | nil => rw [List.nil_append, Text.splitOn, if_pos rfl]
  | cons c piece ih =>
    rw [List.cons_append, Text.splitOn, if_neg (h c List.mem_cons_self), ih fun d hd =>
      h d (List.mem_cons_of_mem c hd)]

/-- Between slashes stand the segments. -/
theorem split_on_slashed {segment : List Char} {segments : List (List Char)}
    (h : ∀ s ∈ segment :: segments, PlainSegment s) :
    Text.splitOn '/' (segment ++ slashed segments) = segment :: segments := by
  induction segments generalizing segment with
  | nil =>
    have hfirst := h segment List.mem_cons_self
    rw [slashed, List.flatMap_nil, List.append_nil, split_on_of_not_mem fun c hc =>
      (hfirst.harmless hc).2]
  | cons next others ih =>
    have hfirst := h segment List.mem_cons_self
    have hsplit : segment ++ slashed (next :: others) =
        segment ++ '/' :: (next ++ slashed others) := rfl
    rw [hsplit, split_on_append fun c hc => (hfirst.harmless hc).2, ih fun s hs =>
      h s (List.mem_cons_of_mem _ hs)]

/-- Without backslashes there is nothing to be turned into a slash. -/
theorem map_backslash_kept {text : List Char} (h : ∀ c ∈ text, c ≠ '\\') :
    text.map (fun c => if c == '\\' then '/' else c) = text := by
  have hsame : ∀ c ∈ text, (if c == '\\' then '/' else c) = c := by
    intro c hc
    have hplain := h c hc
    rw [if_neg (by simpa using hplain)]
  rw [List.map_congr_left hsame, List.map_id']

/-- A path of plain segments is read as it is written. -/
theorem parse_path_plain {segments : List (List Char)} (hne : segments ≠ [])
    (h : ∀ s ∈ segments, PlainSegment s) :
    parsePath true (slashed segments) = slashed segments := by
  have hkept := map_backslash_kept fun c hc => (harmless_of_mem_slashed h hc).not_backslash
  cases segments with
  | nil => exact absurd rfl hne
  | cons segment segments =>
    have hfront : slashed (segment :: segments) = '/' :: (segment ++ slashed segments) := rfl
    have hsplit := split_on_slashed h
    simp only [parsePath, if_true, hkept]
    rw [hfront]
    simp only [hsplit, add_segments_plain h, joinPath, List.append_nil, List.reverse_reverse]
    rfl

theorem cut_of_none {p : Char → Bool} {text : List Char} (h : ∀ c ∈ text, p c = false) :
    Text.cut p text = (text, []) := by
  have htaken : text.takeWhile (fun c => !p c) = text := by
    apply List.takeWhile_eq_self_iff.mpr
    intro c hc
    rw [h c hc]
    rfl
  have hleft : text.dropWhile (fun c => !p c) = [] := by
    apply List.dropWhile_eq_nil_iff.mpr
    intro c hc
    rw [h c hc]
    rfl
  rw [Text.cut, htaken, hleft]

/-- An address on this machine is read as such, with its path. -/
theorem parse_loopback {segments : List (List Char)} (hne : segments ≠ [])
    (h : ∀ s ∈ segments, PlainSegment s) :
    parse (String.ofList (loopback ++ slashed segments)) =
      .ok (loopbackUrl (slashed segments)) := by
  have hvisible : ∀ c ∈ loopback ++ slashed segments, 0x20 < c.toNat := by
    have hfront : (loopback.all fun c => decide (0x20 < c.toNat)) = true := by decide
    intro c hc
    rcases List.mem_append.mp hc with hc | hc
    · exact of_decide_eq_true (List.all_eq_true.mp hfront c hc)
    · exact (harmless_of_mem_slashed h hc).visible
  -- the address is taken apart from its front: scheme, host, path
  have hscheme : splitScheme? (loopback ++ slashed segments) =
      some ("http", ['/', '/', '[', ':', ':', '1', ']'] ++ slashed segments) := rfl
  have hserver : (impliedSocket? "http").isSome = true := rfl
  have hslashes : (['/', '/', '[', ':', ':', '1', ']'] ++ slashed segments).dropWhile isSlash =
      ['[', ':', ':', '1', ']'] ++ slashed segments := rfl
  have hauthority : Text.cut (fun c => c == '/' || isPathEnd c || (true && c == '\\'))
      (['[', ':', ':', '1', ']'] ++ slashed segments) =
        (['[', ':', ':', '1', ']'], slashed segments) := by
    cases segments with
    | nil => exact absurd rfl hne
    | cons segment segments => rfl
  have hhost : Host.parse ['[', ':', ':', '1', ']'] = .ok "[::1]" := by decide +kernel
  have hpath := parse_path_plain hne h
  have hcut := cut_of_none fun c hc => (harmless_of_mem_slashed h hc).not_end
  rw [parse, String.toList_ofList, clean_visible hvisible, hscheme]
  have hname : Text.splitLast? '@' ['[', ':', ':', '1', ']'] = none := rfl
  have hsplit : splitHost false ['[', ':', ':', '1', ']'] = (['[', ':', ':', '1', ']'], []) := rfl
  simp only [hserver, hslashes, parseAuthority, hauthority, hname, hsplit, hhost, hcut, hpath]
  rfl

end Url

theorem Harmless.utf8_size {c : Char} (h : Harmless c) : c.utf8Size = 1 := by
  rw [Char.utf8Size_eq_one_iff, UInt32.le_iff_toNat_le]
  exact Nat.le_trans h.ascii (by decide)

/-- A request for a plain path that is not too long goes out to the address that was put
together. -/
theorem heading_loopback {segments : List (List Char)} (hne : segments ≠ [])
    (h : ∀ s ∈ segments, PlainSegment s)
    (hlength : (slashed segments).length ≤ 65000) :
    heading (String.ofList (loopback ++ slashed segments)) none =
      .ok (String.ofList (loopback ++ slashed segments), none) := by
  have hsent : (loopbackUrl (slashed segments)).sent =
      String.ofList (loopback ++ slashed segments) := by
    apply String.toList_injective
    simp [Url.sent, loopbackUrl, loopback]
  -- every character takes one byte, so the length of the text bounds that of the address
  have hsize : (String.ofList (loopback ++ slashed segments)).utf8ByteSize ≤ Url.longest := by
    have hascii : ∀ c ∈ loopback ++ slashed segments, c.utf8Size = 1 := by
      have hfront : (loopback.all fun c => c.utf8Size == 1) = true := by decide
      intro c hc
      rcases List.mem_append.mp hc with hc | hc
      · exact eq_of_beq (List.all_eq_true.mp hfront c hc)
      · exact (harmless_of_mem_slashed h hc).utf8_size
    have hfront : loopback.length = 12 := rfl
    rw [Text.utf8_byte_size_of_ascii hascii, List.length_append, hfront, Url.longest]
    omega
  have hsendable : (loopbackUrl (slashed segments)).isSendable = true := by
    have hhost : ((loopbackUrl (slashed segments)).host.getD "").toList.any Url.isUnsendable =
        false := by
      change ("[::1]" : String).toList.any Url.isUnsendable = false
      decide
    simp only [Url.isSendable, hhost, hsent, hsize]
    rfl
  have houtgoing : (loopbackUrl (slashed segments)).outgoing = loopbackUrl (slashed segments) := rfl
  simp only [heading, Url.parse_loopback hne h, houtgoing, hsendable, if_true, hsent]
  rfl

end ChainLens.Web
