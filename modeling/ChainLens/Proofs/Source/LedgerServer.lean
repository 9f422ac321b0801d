import ChainLens.Proofs.Source.Ledger
import ChainLens.Proofs.Text.HashDigits
import ChainLens.Proofs.Text.Numerals
import ChainLens.Proofs.Web.PlainPath

/-!
Servers of a chain. Every chain can be served in both dialects: no two pages have one path, and
every path goes out as it is.
-/

namespace ChainLens

open Web

def here : BaseUrl := ⟨"http://[::1]"⟩

section Segments

/-- A segment of a path that is plain and not long. -/
structure ShortSegment (segment : List Char) : Prop where
  plain : PlainSegment segment
  short : segment.length ≤ 100

/-- A path of a few such segments. -/
structure ShortPath (segments : List (List Char)) : Prop where
  nonempty : segments ≠ []
  few : segments.length ≤ 3
  short : ∀ s ∈ segments, ShortSegment s

/-- What may stand behind a word: a few letters, digits and dots, or nothing. -/
def IsExtension (ext : List Char) : Prop :=
  (ext.all fun c => c.isAlphanum || c == '.') = true ∧ ext.length ≤ 5

instance (ext : List Char) : Decidable (IsExtension ext) := inferInstanceAs (Decidable (_ ∧ _))

/-- A word of letters and digits, with an extension or without. -/
theorem short_segment {word ext : List Char} (hne : word ≠ [])
    (hword : word.all Char.isAlphanum = true)
    (hlength : word.length ≤ 64) (hext : IsExtension ext) : ShortSegment (word ++ ext) := by
  obtain ⟨c, others, rfl⟩ := List.exists_cons_of_ne_nil hne
  -- the word comes first, so the segment is not made of dots
  have hfirst : c ≠ '.' := by
    rintro rfl
    cases hword
  have hdots (dots : List Char) : c :: others ++ ext ≠ '.' :: dots :=
    fun h => hfirst (List.cons.inj h).1
  have hchars : ∀ d ∈ c :: others ++ ext, d.isAlphanum = true ∨ d = '.' := by
    intro d hd
    rcases List.mem_append.mp hd with hd | hd
    · exact .inl (List.all_eq_true.mp hword d hd)
    · simpa using List.all_eq_true.mp hext.1 d hd
  have hshort := hext.2
  refine ⟨⟨hchars, hdots [], hdots ['.']⟩, ?_⟩
  rw [List.length_append]
  omega

theorem short_word (word : String)
    (h : word.toList ≠ [] ∧ word.toList.all Char.isAlphanum = true ∧ word.toList.length ≤ 64) :
    ShortSegment word.toList := by
  have hshort : ShortSegment (word.toList ++ []) := short_segment h.1 h.2.1 h.2.2 (by decide)
  rwa [List.append_nil] at hshort

theorem short_file {file : List Char} (hfile : ShortSegment file) : ShortPath [file] where
  nonempty := List.cons_ne_nil _ _
  few := by simp
  short := List.forall_mem_singleton.mpr hfile

theorem short_below {dir file : List Char} (hdir : ShortSegment dir) (hfile : ShortSegment file) :
    ShortPath [dir, file] where
  nonempty := List.cons_ne_nil _ _
  few := by simp
  short := List.forall_mem_cons.mpr ⟨hdir, (short_file hfile).short⟩

theorem short_below_two {dir inner file : List Char} (hdir : ShortSegment dir)
    (hinner : ShortSegment inner)
    (hfile : ShortSegment file) : ShortPath [dir, inner, file] where
  nonempty := List.cons_ne_nil _ _
  few := by simp
  short := List.forall_mem_cons.mpr ⟨hdir, (short_below hinner hfile).short⟩

theorem alphanum_digit : ∀ n < 16, (Hex.digit n).isAlphanum = true := by decide

theorem length_display (hash : Hash256) : hash.display.toList.length = 64 :=
  (Hash256.denoted_display hash).length_eq

theorem display_injective : Function.Injective Hash256.display := by
  intro a b h
  have hparse := congrArg Hash256.parse h
  rw [Hash256.parse_display, Hash256.parse_display] at hparse
  exact Except.ok.inj hparse

theorem alphanum_display (hash : Hash256) : ∀ c ∈ hash.display.toList, c.isAlphanum = true := by
  intro c hc
  rw [Hash256.to_list_display] at hc
  obtain ⟨n, hn, rfl⟩ := Hex.mem_encode_chars hc
  exact alphanum_digit n hn

/-- A hash makes a short segment, with an extension or without. -/
theorem short_display (hash : Hash256) {ext : List Char} (hext : IsExtension ext) :
    ShortSegment (hash.display.toList ++ ext) := by
  have hlength := length_display hash
  have hne : hash.display.toList ≠ [] := by
    intro hnil
    rw [hnil] at hlength
    cases hlength
  exact short_segment hne (List.all_eq_true.mpr (alphanum_display hash)) (Nat.le_of_eq hlength) hext

def numeral (height : Height) : List Char := Nat.toDigits 10 height.toNat

theorem length_numeral (height : Height) :
    1 ≤ (numeral height).length ∧ (numeral height).length ≤ 10 := by
  have hbound := height.toNat_lt
  constructor
  · exact List.length_pos_iff.mpr Nat.toDigits_ne_nil
  · apply (Nat.length_toDigits_le_iff (by omega) (by omega)).mpr
    omega

theorem numeral_injective : Function.Injective numeral := by
  intro a b h
  have hread := congrArg Text.ofDigits h
  rw [numeral, numeral, Text.of_digits_to_digits, Text.of_digits_to_digits] at hread
  exact UInt32.toNat_inj.mp hread

/-- So does a height. -/
theorem short_numeral (height : Height) {ext : List Char} (hext : IsExtension ext) :
    ShortSegment (numeral height ++ ext) := by
  have hlength : (numeral height).length ≤ 64 := Nat.le_trans (length_numeral height).2 (by decide)
  apply short_segment Nat.toDigits_ne_nil _ hlength hext
  apply List.all_eq_true.mpr
  intro c hc
  have hdigit := Nat.isDigit_of_mem_toDigits (by omega) (by omega) hc
  simp only [Char.isAlphanum, hdigit, Bool.or_true]

end Segments

theorem length_slashed_le {segments : List (List Char)} (h : ∀ s ∈ segments, ShortSegment s) :
    (slashed segments).length ≤ 101 * segments.length := by
  induction segments with
  | nil => exact Nat.le_refl 0
  | cons segment segments ih =>
    have hfirst := (h segment List.mem_cons_self).short
    have hrest := ih fun s hs => h s (List.mem_cons_of_mem segment hs)
    have hsplit : slashed (segment :: segments) = '/' :: (segment ++ slashed segments) := rfl
    rw [hsplit, List.length_cons, List.length_append, List.length_cons]
    omega

/-- A request for a page under a few short segments goes out to its address. -/
theorem heading_here {path : String} {segments : List (List Char)}
    (hpath : '/' :: path.toList = slashed segments)
    (h : ShortPath segments) : heading (here.join path) none = .ok (here.join path, none) := by
  have hjoin : here.join path = String.ofList (loopback ++ slashed segments) := by
    apply String.toList_injective
    rw [String.toList_ofList, ← hpath]
    simp [BaseUrl.join, here, loopback]
  have hlength := length_slashed_le h.short
  have hfew := h.few
  rw [hjoin]
  exact heading_loopback h.nonempty (fun s hs => (h.short s hs).plain) (by omega)

section Paths

/-- A path that ends in a name, below segments that are fixed. -/
theorem slashed_path (front : String) (segments : List (List Char))
    (hfront : '/' :: front.toList = slashed segments ++ ['/']) (name : String) :
    '/' :: (front ++ name).toList = slashed (segments ++ [name.toList]) := by
  rw [String.toList_append, ← List.cons_append, hfront]
  simp [slashed]

theorem slashed_file (front : String) (segments : List (List Char))
    (hfront : '/' :: front.toList = slashed segments ++ ['/']) (name ext : String) :
    '/' :: (front ++ name ++ ext).toList = slashed (segments ++ [name.toList ++ ext.toList]) := by
  rw [String.append_assoc, slashed_path front segments hfront, String.toList_append]

theorem length_path (front name : String) :
    (front ++ name).toList.length = front.toList.length + name.toList.length := by
  rw [String.toList_append, List.length_append]

theorem length_file (front name ext : String) :
    (front ++ name ++ ext).toList.length = front.toList.length + name.toList.length +
      ext.toList.length := by
  rw [length_path, length_path]

theorem name_of_path {front a b : String} (h : front ++ a = front ++ b) : a = b := by
  have hchars := congrArg String.toList h
  rw [String.toList_append, String.toList_append, List.append_cancel_left_eq] at hchars
  exact String.toList_injective hchars

theorem name_of_file {front ext a b : String} (h : front ++ a ++ ext = front ++ b ++ ext) :
    a = b := by
  have hchars : (front ++ a).toList ++ ext.toList = (front ++ b).toList ++ ext.toList := by
    rw [← String.toList_append, ← String.toList_append, h]
  exact name_of_path (String.toList_injective (List.append_cancel_right hchars))

theorem numeral_to_list (height : Height) : height.toNat.repr.toList = numeral height :=
  Nat.toList_repr

theorem repr_injective {a b : Height} (h : a.toNat.repr = b.toNat.repr) : a = b := by
  have hchars := congrArg String.toList h
  rw [numeral_to_list, numeral_to_list] at hchars
  exact numeral_injective hchars

end Paths

namespace NodePage

def segments : NodePage → List (List Char)
  | .transaction id => ["tx".toList, id.display.toList ++ ".bin".toList]
  | .placement id => ["tx".toList, id.display.toList ++ ".json".toList]
  | .block hash => ["block".toList, hash.display.toList ++ ".bin".toList]
  | .facts hash => ["block".toList, "notxdetails".toList, hash.display.toList ++ ".json".toList]
  | .blockAt height => ["blockhashbyheight".toList, numeral height ++ ".bin".toList]
  | .tip => ["chaininfo.json".toList]

/-- The segments of a page stand between the slashes of its path. -/
theorem slashed_segments (page : NodePage) : '/' :: page.path.toList = slashed page.segments := by
  cases page with
  | transaction id => exact slashed_file "tx/" ["tx".toList] rfl id.display ".bin"
  | placement id => exact slashed_file "tx/" ["tx".toList] rfl id.display ".json"
  | block hash => exact slashed_file "block/" ["block".toList] rfl hash.display ".bin"
  | facts hash =>
    exact slashed_file "block/notxdetails/" ["block".toList, "notxdetails".toList] rfl
      hash.display ".json"
  | blockAt height =>
    rw [segments, ← numeral_to_list]
    exact slashed_file "blockhashbyheight/" ["blockhashbyheight".toList] rfl
      height.toNat.repr ".bin"
  | tip => rfl

theorem short_segments (page : NodePage) : ShortPath page.segments := by
  have hbin : IsExtension ".bin".toList := by decide
  have hjson : IsExtension ".json".toList := by decide
  cases page with
  | transaction id => exact short_below (short_word "tx" (by decide)) (short_display id hbin)
  | placement id => exact short_below (short_word "tx" (by decide)) (short_display id hjson)
  | block hash => exact short_below (short_word "block" (by decide)) (short_display hash hbin)
  | facts hash =>
    have hinner := short_word "notxdetails" (by decide)
    exact short_below_two (short_word "block" (by decide)) hinner (short_display hash hjson)
  | blockAt height =>
    exact short_below (short_word "blockhashbyheight" (by decide)) (short_numeral height hbin)
  | tip =>
    have hfile : ShortSegment ("chaininfo".toList ++ ".json".toList) :=
      short_segment (by decide) (by decide) (by decide) hjson
    exact short_file hfile

def Fits : NodePage → Nat → Prop
  | .transaction _, n => n = 71
  | .placement _, n => n = 72
  | .block _, n => n = 74
  | .facts _, n => n = 87
  | .blockAt _, n => 23 ≤ n ∧ n ≤ 32
  | .tip, n => n = 14

/-- The path of a page is as long as pages of its kind have it. -/
theorem fits_path (page : NodePage) : page.Fits page.path.toList.length := by
  cases page with
  | transaction id =>
    exact (length_file "tx/" id.display ".bin").trans (by rw [length_display]; rfl)
  | placement id => exact (length_file "tx/" id.display ".json").trans (by rw [length_display]; rfl)
  | block hash =>
    exact (length_file "block/" hash.display ".bin").trans (by rw [length_display]; rfl)
  | facts hash =>
    exact (length_file "block/notxdetails/" hash.display ".json").trans (by
      rw [length_display]; rfl)
  | blockAt height =>
    have hlength := length_file "blockhashbyheight/" height.toNat.repr ".bin"
    have hnumeral := length_numeral height
    have hfront : "blockhashbyheight/".toList.length = 18 := rfl
    have hext : ".bin".toList.length = 4 := rfl
    rw [numeral_to_list, hfront, hext] at hlength
    have hbounds : 23 ≤ 18 + (numeral height).length + 4 ∧ 18 + (numeral height).length + 4 ≤
        32 := by omega
    rw [← hlength] at hbounds
    exact hbounds
  | tip => rfl

/-- Different pages have different paths. -/
theorem path_injective : Function.Injective path := by
  intro a b h
  have ha := fits_path a
  have hb := fits_path b
  rw [h] at ha
  generalize b.path.toList.length = n at ha hb
  -- paths of different kinds are of different lengths, and within a kind only the names differ
  cases a <;> cases b <;> simp only [Fits] at ha hb <;> try omega
  case transaction.transaction id other => rw [display_injective (name_of_file h)]
  case placement.placement id other => rw [display_injective (name_of_file h)]
  case block.block hash other => rw [display_injective (name_of_file h)]
  case facts.facts hash other => rw [display_injective (name_of_file h)]
  case blockAt.blockAt height other => rw [repr_injective (name_of_file h)]
  case tip.tip => rfl

end NodePage

namespace IndexPage

def segments : IndexPage → List (List Char)
  | .status => ["status".toList]
  | .transaction id => ["tx".toList, id.display.toList]
  | .block (.hash hash) => ["block".toList, hash.display.toList]
  | .block (.height height) => ["block".toList, numeral height]

theorem slashed_segments (page : IndexPage) : '/' :: page.path.toList = slashed page.segments := by
  cases page with
  | status => rfl
  | transaction id => exact slashed_path "tx/" ["tx".toList] rfl id.display
  | block ref =>
    cases ref with
    | hash hash => exact slashed_path "block/" ["block".toList] rfl hash.display
    | height height =>
      rw [segments, ← numeral_to_list]
      exact slashed_path "block/" ["block".toList] rfl height.toNat.repr

theorem short_segments (page : IndexPage) : ShortPath page.segments := by
  have hdisplay (hash : Hash256) : ShortSegment hash.display.toList := by
    have hshort : ShortSegment (hash.display.toList ++ []) := short_display hash (by decide)
    rwa [List.append_nil] at hshort
  have hnumeral (height : Height) : ShortSegment (numeral height) := by
    have hshort : ShortSegment (numeral height ++ []) := short_numeral height (by decide)
    rwa [List.append_nil] at hshort
  cases page with
  | status => exact short_file (short_word "status" (by decide))
  | transaction id => exact short_below (short_word "tx" (by decide)) (hdisplay id)
  | block ref =>
    cases ref with
    | hash hash => exact short_below (short_word "block" (by decide)) (hdisplay hash)
    | height height => exact short_below (short_word "block" (by decide)) (hnumeral height)

def Fits : IndexPage → Nat → Prop
  | .status, n => n = 6
  | .transaction _, n => n = 67
  | .block (.hash _), n => n = 70
  | .block (.height _), n => 7 ≤ n ∧ n ≤ 16

theorem fits_path (page : IndexPage) : page.Fits page.path.toList.length := by
  cases page with
  | status => rfl
  | transaction id => exact (length_path "tx/" id.display).trans (by rw [length_display]; rfl)
  | block ref =>
    cases ref with
    | hash hash => exact (length_path "block/" hash.display).trans (by rw [length_display]; rfl)
    | height height =>
      have hlength := length_path "block/" height.toNat.repr
      have hnumeral := length_numeral height
      have hfront : "block/".toList.length = 6 := rfl
      rw [numeral_to_list, hfront] at hlength
      have hbounds : 7 ≤ 6 + (numeral height).length ∧ 6 + (numeral height).length ≤ 16 := by omega
      rw [← hlength] at hbounds
      exact hbounds

theorem path_injective : Function.Injective path := by
  intro a b h
  have ha := fits_path a
  have hb := fits_path b
  rw [h] at ha
  generalize b.path.toList.length = n at ha hb
  rcases a with _ | id | ⟨height | hash⟩ <;> rcases b with _ | id' | ⟨height' | hash'⟩ <;>
    simp only [Fits] at ha hb <;> try omega
  · rfl
  · rw [display_injective (name_of_path h)]
  · rw [repr_injective (name_of_path h)]
  · rw [display_injective (name_of_path h)]

end IndexPage

namespace Ledger

def nodePages (l : Ledger) : List NodePage :=
  .tip :: ((l.placed.flatMap fun t => [.transaction t.1, .placement t.1]) ++
    l.blocks.flatMap fun p => [.block p.2.header.hash, .facts p.2.header.hash, .blockAt p.1])

def indexPages (l : Ledger) : List IndexPage :=
  .status :: ((l.placed.map fun t => .transaction t.1) ++
    l.blocks.flatMap fun p => [.block (.hash p.2.header.hash), .block (.height p.1)])

variable {l : Ledger}

theorem mem_of_transaction {id : Txid} (h : l.transaction? id ≠ none) :
    ∃ t ∈ l.placed, t.1 = id := by
  obtain ⟨found, hfound⟩ := Option.ne_none_iff_exists'.mp h
  exact ⟨(id, found), mem_of_lookup hfound, rfl⟩

theorem mem_of_block {hash : BlockHash} (h : l.block? hash ≠ none) :
    ∃ p ∈ l.blocks, p.2.header.hash = hash := by
  obtain ⟨p, hp⟩ := Option.ne_none_iff_exists'.mp h
  exact ⟨p, block_eq_some hp⟩

theorem mem_of_block_at {height : Height} (h : l.blockAt height ≠ none) :
    ∃ p ∈ l.blocks, p.1 = height := by
  obtain ⟨hash, hat⟩ := Option.ne_none_iff_exists'.mp h
  obtain ⟨b, hlookup, -⟩ := Option.map_eq_some_iff.mp hat
  exact ⟨(height, b), mem_of_lookup hlookup, rfl⟩

/-- Every page that a node has is among those served. -/
theorem mem_node_pages {page : NodePage} (h : l.nodePage page ≠ none) : page ∈ l.nodePages := by
  cases page with
  | tip => exact List.mem_cons_self
  | transaction id =>
    obtain ⟨t, ht, rfl⟩ := mem_of_transaction fun hnone => h (by rw [nodePage, hnone]; rfl)
    exact List.mem_cons_of_mem _ (List.mem_append_left _ (List.mem_flatMap.mpr ⟨t, ht, by simp⟩))
  | placement id =>
    obtain ⟨t, ht, rfl⟩ := mem_of_transaction fun hnone => h (by rw [nodePage, hnone]; rfl)
    exact List.mem_cons_of_mem _ (List.mem_append_left _ (List.mem_flatMap.mpr ⟨t, ht, by simp⟩))
  | block hash =>
    obtain ⟨p, hp, rfl⟩ := mem_of_block fun hnone => h (by rw [nodePage, hnone]; rfl)
    exact List.mem_cons_of_mem _ (List.mem_append_right _ (List.mem_flatMap.mpr ⟨p, hp, by simp⟩))
  | facts hash =>
    obtain ⟨p, hp, rfl⟩ := mem_of_block fun hnone => h (by rw [nodePage, hnone]; rfl)
    exact List.mem_cons_of_mem _ (List.mem_append_right _ (List.mem_flatMap.mpr ⟨p, hp, by simp⟩))
  | blockAt height =>
    obtain ⟨p, hp, rfl⟩ := mem_of_block_at fun hnone => h (by rw [nodePage, hnone]; rfl)
    exact List.mem_cons_of_mem _ (List.mem_append_right _ (List.mem_flatMap.mpr ⟨p, hp, by simp⟩))

theorem mem_index_pages {page : IndexPage} (h : l.indexPage page ≠ none) : page ∈ l.indexPages := by
  cases page with
  | status => exact List.mem_cons_self
  | transaction id =>
    obtain ⟨t, ht, rfl⟩ := mem_of_transaction fun hnone => h (by rw [indexPage, hnone]; rfl)
    exact List.mem_cons_of_mem _ (List.mem_append_left _ (List.mem_map_of_mem ht))
  | block ref =>
    cases ref with
    | hash hash =>
      obtain ⟨p, hp, rfl⟩ := mem_of_block fun hnone => h (by rw [indexPage, hnone]; rfl)
      exact List.mem_cons_of_mem _ (List.mem_append_right _ (List.mem_flatMap.mpr ⟨p, hp, by simp⟩))
    | height height =>
      obtain ⟨p, hp, rfl⟩ := mem_of_block_at fun hnone => h (by rw [indexPage, hnone]; rfl)
      exact List.mem_cons_of_mem _ (List.mem_append_right _ (List.mem_flatMap.mpr ⟨p, hp, by simp⟩))

def nodeServer (l : Ledger) : Rehearsal :=
  Rehearsal.serve (pagesAt here NodePage.path l.nodePage l.nodePages)

def indexServer (l : Ledger) : Rehearsal :=
  Rehearsal.serve (pagesAt here IndexPage.path l.indexPage l.indexPages)

/-- There is a server that publishes a chain as a node does. -/
theorem node_server_publishes (l : Ledger) :
    l.nodeServer.still.Publishes here NodePage.path l.nodePage := by
  apply serve_publishes NodePage.path_injective fun page => mem_node_pages
  intro page
  exact heading_here page.slashed_segments page.short_segments

/-- There is a server that publishes a chain as an index does. -/
theorem index_server_publishes (l : Ledger) :
    l.indexServer.still.Publishes here IndexPage.path l.indexPage := by
  apply serve_publishes IndexPage.path_injective fun page => mem_index_pages
  intro page
  exact heading_here page.slashed_segments page.short_segments

end Ledger

end ChainLens
