import ChainLens.Proofs.Web.PlainPath

/-!
Addresses that differ in their last segment. What is added at the end of an address that ends in a
slash ends up at the end of its path, or of its query or fragment, and changes nothing in front. So
with one transaction below a base address every other one can be requested too.
-/

namespace ChainLens.Web

/-- Adds characters at the end of an address that has been taken apart. -/
def Url.extend (u : Url) (more : String) : Url :=
  match u.fragment, u.query with
  | some f, _ => { u with fragment := some (f ++ more) }
  | none, some q => { u with query := some (q ++ more) }
  | none, none => { u with path := u.path ++ more }

namespace Url

section Lists

variable {p : Char → Bool} {text : List Char}

theorem drop_while_append_of_stop (h : ∃ c ∈ text, p c = false) (more : List Char) :
    (text ++ more).dropWhile p = text.dropWhile p ++ more ∧ (text ++ more).takeWhile p =
      text.takeWhile p := by
  obtain ⟨c, hc, hstop⟩ := h
  induction text with
  | nil => cases hc
  | cons a text ih =>
    cases ha : p a with
    | false => simp [ha]
    | true =>
      have hlater : c ∈ text := by
        rcases List.mem_cons.mp hc with rfl | hlater
        · rw [hstop] at ha
          cases ha
        · exact hlater
      obtain ⟨hdrop, htake⟩ := ih hlater
      simp [ha, hdrop, htake]

/-- Characters after the first one that satisfies `p` stay behind it. -/
theorem cut_append_of_stop (h : ∃ c ∈ text, p c = true) (more : List Char) :
    Text.cut p (text ++ more) = ((Text.cut p text).1, (Text.cut p text).2 ++ more) := by
  obtain ⟨c, hc, hstop⟩ := h
  have hinside : ∃ c ∈ text, (!p c) = false := ⟨c, hc, by rw [hstop]; rfl⟩
  obtain ⟨hdrop, htake⟩ := drop_while_append_of_stop hinside more
  rw [Text.cut, Text.cut, hdrop, htake]

theorem exists_cons_of_cut (h : ∃ c ∈ text, p c = true) :
    ∃ c later, (Text.cut p text).2 = c :: later ∧ p c = true := by
  obtain ⟨c, hc, hstop⟩ := h
  have hrest : (Text.cut p text).2 = text.dropWhile (fun c => !p c) := rfl
  have hhead := List.head?_dropWhile_not (fun c => !p c) text
  cases hleft : text.dropWhile (fun c => !p c) with
  | nil =>
    have hpassed := List.dropWhile_eq_nil_iff.mp hleft c hc
    rw [hstop] at hpassed
    cases hpassed
  | cons d later =>
    rw [hleft] at hhead
    exact ⟨d, later, hrest.trans hleft, by simpa using hhead⟩

/-- Characters that do not satisfy `p` go to the second part of a text that has one, and else to the
first. -/
theorem cut_append_cases (text : List Char) {more : List Char} (hmore : ∀ c ∈ more, p c = false) :
    ((∃ c later, (Text.cut p text).2 = c :: later ∧ p c = true) ∧
        Text.cut p (text ++ more) = ((Text.cut p text).1, (Text.cut p text).2 ++ more)) ∨
      ((∀ c ∈ text, p c = false) ∧ Text.cut p text = (text, []) ∧ Text.cut p (text ++ more) =
        (text ++ more, [])) := by
  by_cases hstop : ∃ c ∈ text, p c = true
  · exact .inl ⟨exists_cons_of_cut hstop, cut_append_of_stop hstop more⟩
  · right
    have hnone : ∀ c ∈ text, p c = false := by
      intro c hc
      rw [← Bool.not_eq_true]
      exact fun hsame => hstop ⟨c, hc, hsame⟩
    have hboth : ∀ c ∈ text ++ more, p c = false := List.forall_mem_append.mpr ⟨hnone, hmore⟩
    exact ⟨hnone, cut_of_none hnone, cut_of_none hboth⟩

/-- The end of a text is the end of every part of it that is long enough. -/
theorem suffix_of_drop {close : List Char} (h : close <:+ text)
    (hlength : close.length ≤ (text.dropWhile p).length) :
    close <:+ text.dropWhile p :=
  List.suffix_of_suffix_length_le h (List.dropWhile_suffix p) hlength

end Lists

section Extended

variable {more : List Char} (hmore : ∀ c ∈ more, c.isAlphanum = true)

include hmore

theorem escape_more {extra : List Char} (hextra : extra.any Char.isAlphanum = false) :
    escape extra more = more := by
  apply escape_kept
  intro c hc
  have hharmless := (harmless_of_alphanum (.inl (hmore c hc))).1
  refine ⟨Nat.le_of_lt hharmless.visible, hharmless.ascii, ?_⟩
  intro hin
  exact List.any_eq_false.mp hextra c hin (hmore c hc)

/-- Letters and digits behind a text are written as they are, whatever is escaped in it. -/
theorem escape_append_more (extra : List Char) (hextra : extra.any Char.isAlphanum = false)
    (text : List Char) :
    escape extra (text ++ more) = escape extra text ++ more := by
  have hparts : escape extra (text ++ more) = escape extra text ++ escape extra more :=
    List.flatMap_append
  rw [hparts, escape_more hmore hextra]

theorem add_segment_more (before : List (List Char)) :
    addSegment before true more = more :: before := by
  have hundot : undot more = more :=
    undot_of_no_percent fun c hc => (harmless_of_alphanum (.inl (hmore c hc))).1.not_percent
  have hescape : escape pathEscapes more = more := escape_more hmore (by decide)
  simp only [addSegment, hundot, hescape]
  -- a dot is no letter and no digit
  split
  · exact absurd (hmore '.' List.mem_cons_self) (by decide)
  · exact absurd (hmore '.' List.mem_cons_self) (by decide)
  · rfl

end Extended

/-- The last segment of a path is added to those that the others leave. -/
theorem add_segments_append (segments before : List (List Char)) :
    ∃ left, ∀ last, addSegments before (segments ++ [last]) = addSegment left true last := by
  induction segments generalizing before with
  | nil => exact ⟨before, fun last => rfl⟩
  | cons segment segments ih =>
    obtain ⟨left, hleft⟩ := ih (addSegment before false segment)
    refine ⟨left, fun last => ?_⟩
    rw [List.cons_append, addSegments, hleft]
    simp

theorem split_on_append_slash (front : List Char) :
    ∃ first others, ∀ last : List Char, (∀ c ∈ last, c ≠ '/') →
      Text.splitOn '/' (front ++ '/' :: last) = first :: (others ++ [last]) := by
  induction front with
  | nil =>
    refine ⟨[], [], fun last hlast => ?_⟩
    rw [List.nil_append, Text.splitOn, if_pos rfl, split_on_of_not_mem hlast]
    rfl
  | cons c front ih =>
    obtain ⟨first, others, hpieces⟩ := ih
    by_cases hc : c = '/'
    · refine ⟨[], first :: others, fun last hlast => ?_⟩
      rw [List.cons_append, Text.splitOn, if_pos hc, hpieces last hlast]
      rfl
    · refine ⟨c :: first, others, fun last hlast => ?_⟩
      rw [List.cons_append, Text.splitOn, if_neg hc, hpieces last hlast]

/-- Behind a slash, letters and digits become the last segment. -/
theorem join_path_append (front : List Char) {more : List Char}
    (hmore : ∀ c ∈ more, c.isAlphanum = true)
    (before : List (List Char)) :
    joinPath (addSegments before (Text.splitOn '/' (front ++ '/' :: more))) =
      joinPath (addSegments before (Text.splitOn '/' (front ++ ['/']))) ++ more := by
  have hslash : ∀ c ∈ more, c ≠ '/' := fun c hc => (harmless_of_alphanum (.inl (hmore c hc))).2
  have hnone : ∀ c ∈ ([] : List Char), c.isAlphanum = true := fun c hc => absurd hc List.not_mem_nil
  obtain ⟨first, others, hpieces⟩ := split_on_append_slash front
  obtain ⟨left, hleft⟩ := add_segments_append (first :: others) before
  rw [hpieces more hslash, hpieces [] (fun c hc => absurd hc List.not_mem_nil), ← List.cons_append,
    ← List.cons_append,
    hleft, hleft, add_segment_more hmore, add_segment_more hnone]
  simp [joinPath]

theorem parse_path_of_ne_slash {c : Char} (hc : c ≠ '/') (text : List Char) :
    parsePath false (c :: text) = joinPath (addSegments [] (Text.splitOn '/' (c :: text))) := by
  simp [parsePath, hc]

theorem parse_path_special {text : List Char} (h : text ≠ []) :
    parsePath true text = parsePath false (text.map fun c => if c == '\\' then '/' else c) := by
  cases text with
  | nil => exact absurd rfl h
  | cons c text =>
    simp only [parsePath, if_true, Bool.false_eq_true, if_false, List.map_cons]
    split
    · next hnil => cases hnil
    · rfl
    · rfl

/-- Letters and digits behind a slash are a segment that is kept as it is. -/
theorem parse_path_append_more {more : List Char} (hmore : ∀ c ∈ more, c.isAlphanum = true)
    (front : List Char) :
    parsePath false (front ++ '/' :: more) = parsePath false (front ++ ['/']) ++ more := by
  have hslash : ∀ c ∈ more, c ≠ '/' := fun c hc => (harmless_of_alphanum (.inl (hmore c hc))).2
  cases front with
  | nil =>
    have hone : parsePath false ('/' :: more) = joinPath (addSegments [] (Text.splitOn '/' more)) :=
      rfl
    rw [List.nil_append, hone, split_on_of_not_mem hslash, addSegments, add_segment_more hmore]
    simp [joinPath, parsePath, Text.splitOn, addSegments, addSegment, undot, escape]
  | cons c front =>
    by_cases hc : c = '/'
    · subst hc
      exact join_path_append front hmore []
    · rw [List.cons_append, List.cons_append, parse_path_of_ne_slash hc, parse_path_of_ne_slash hc]
      exact join_path_append (c :: front) hmore []

/-- A path that ends with a slash may be continued before it is read or after. -/
theorem parse_path_append {special : Bool} {text more : List Char}
    (hmore : ∀ c ∈ more, c.isAlphanum = true)
    (h : ['/'] <:+ text) : parsePath special (text ++ more) = parsePath special text ++ more := by
  obtain ⟨front, rfl⟩ := h
  rw [List.append_assoc, List.singleton_append]
  cases special with
  | false => exact parse_path_append_more hmore front
  | true =>
    have hkept :=
      map_backslash_kept fun c hc => (harmless_of_alphanum (.inl (hmore c hc))).1.not_backslash
    rw [parse_path_special (by simp), parse_path_special (by simp), List.map_append,
      List.map_append, List.map_cons, hkept]
    exact parse_path_append_more hmore _

theorem with_tail_append {special : Bool} {u : Url} {rest more : List Char}
    (hmore : ∀ c ∈ more, c.isAlphanum = true)
    (hrest : ∃ c later, rest = c :: later ∧ isPathEnd c = true) :
    withTail special u (rest ++ more) = (withTail special u rest).extend (String.ofList more) := by
  have hfragment := escape_append_more hmore fragmentEscapes (by decide)
  have hquery := escape_append_more hmore (queryEscapes special) (by cases special <;> decide)
  have hplain : ∀ c ∈ more, (c == '#') = false := by
    intro c hc
    rw [beq_eq_false_iff_ne]
    rintro rfl
    exact absurd (hmore '#' hc) (by decide)
  rcases cut_append_cases rest hplain with ⟨⟨d, fragment, hleft, hd⟩, hcut⟩ | ⟨hnone, hcut, hcut'⟩
  · -- a fragment takes what is added
    rw [beq_iff_eq] at hd
    subst hd
    simp only [withTail, hcut, hleft, extend, List.cons_append, hfragment, String.ofList_append]
  · -- what is left to begin the rest is the mark of a query
    obtain ⟨c, later, rfl, hend⟩ := hrest
    have hc : c = '?' := by
      have hno := hnone c List.mem_cons_self
      simp only [isPathEnd, hno, Bool.or_false] at hend
      simpa using hend
    subst hc
    simp only [withTail, hcut, hcut', extend]
    simp only [List.cons_append, hquery, String.ofList_append]

section Results

variable {α β γ : Type} (f : α → β)

theorem map_ite (c : Prop) [Decidable c] (x y : Except UrlFault α) :
    (if c then x else y).map f = if c then x.map f else y.map f := apply_ite (Except.map f) c x y

theorem map_bind (x : Except UrlFault γ) (g : γ → Except UrlFault α) :
    (x >>= g).map f = x >>= fun a => (g a).map f := by
  cases x <;> rfl

theorem map_pure (a : α) : (pure a : Except UrlFault α).map f = pure (f a) := rfl

end Results

theorem not_path_end_of_alphanum {more : List Char} (hmore : ∀ c ∈ more, c.isAlphanum = true) :
    ∀ c ∈ more, isPathEnd c = false :=
  fun c hc => (harmless_of_alphanum (.inl (hmore c hc))).1.not_end

/-- What is added goes to the last part of an address, which is its path, its query or its
fragment. -/
theorem finish_append (special : Bool) (u : Url) (place : List Char → List Char)
    {text more : List Char}
    (hmore : ∀ c ∈ more, c.isAlphanum = true) (hplace : place (text ++ more) = place text ++ more) :
    withTail special { u with path := String.ofList (place (Text.cut isPathEnd (text ++ more)).1) }
        (Text.cut isPathEnd (text ++ more)).2 =
      (withTail special { u with path := String.ofList (place (Text.cut isPathEnd text).1) }
        (Text.cut isPathEnd text).2).extend (String.ofList more) := by
  rcases cut_append_cases text (not_path_end_of_alphanum hmore) with
    ⟨htail, hcut⟩ | ⟨-, hnone, hnone'⟩
  · rw [hcut]
    exact with_tail_append hmore htail
  · rw [hnone, hnone', hplace]
    simp [withTail, Text.cut, extend]

/-- Behind a slash the host and what belongs to it are not touched. -/
theorem parse_authority_append {scheme : String} {special : Bool} {text more : List Char}
    (hmore : ∀ c ∈ more, c.isAlphanum = true) (h : ['/'] <:+ text) :
    parseAuthority scheme special (text ++ more) =
      (parseAuthority scheme special text).map fun u => u.extend (String.ofList more) := by
  have hstop : ∃ c ∈ text, (fun c => c == '/' || isPathEnd c || (special && c == '\\')) c = true :=
    ⟨'/', h.subset List.mem_cons_self, rfl⟩
  obtain ⟨c, later, hrest, -⟩ := exists_cons_of_cut hstop
  have hslash : ['/'] <:+ c :: later := by
    rw [← hrest]
    exact suffix_of_drop h (by rw [show text.dropWhile _ = c :: later from hrest]; simp)
  have hpath : parsePath special (c :: later ++ more) = parsePath special (c :: later) ++ more :=
    parse_path_append hmore hslash
  have hfinish (user : Option (String × Option String)) (host : String) (socket : Option Nat) :=
    finish_append special ⟨scheme, user, some host, socket, "", none, none⟩ (parsePath special)
      hmore hpath
  simp only [List.cons_append] at hfinish
  -- user, host and number are read from what stands in front of the path
  simp only [parseAuthority, cut_append_of_stop hstop more, hrest, List.cons_append,
    List.isEmpty_cons, hfinish, map_ite, map_bind, map_pure]

def pathAlone (path : List Char) : List Char :=
  if path.head? = some '/' then parsePath false path else escape [] path

theorem path_alone_append {text more : List Char} (hmore : ∀ c ∈ more, c.isAlphanum = true)
    (h : ['/'] <:+ text) :
    pathAlone (text ++ more) = pathAlone text ++ more := by
  have hhead : (text ++ more).head? = text.head? := by
    cases text with
    | nil => exact absurd h (by decide)
    | cons c later => rfl
  simp only [pathAlone, hhead, parse_path_append hmore h, escape_append_more hmore [] rfl]
  split
  · rfl
  · rfl

theorem parse_other_alone {text : List Char} (h : ¬ ['/', '/'] <+: text) (scheme : String) :
    parseOther scheme text =
    .ok (withTail false ⟨scheme, none, none, none,
      String.ofList (pathAlone (Text.cut isPathEnd text).1), none, none⟩
      (Text.cut isPathEnd text).2) := by
  rw [parseOther]
  · rfl
  · rintro rest rfl
    exact h ⟨rest, rfl⟩

theorem parse_other_append {scheme : String} {text more : List Char}
    (hmore : ∀ c ∈ more, c.isAlphanum = true)
    (h : ['x', '/'] <:+ text) :
    parseOther scheme (text ++ more) = (parseOther scheme text).map fun u =>
      u.extend (String.ofList more) := by
  have hslash : ['/'] <:+ text := (List.suffix_append ['x'] ['/']).trans h
  by_cases hserver : ['/', '/'] <+: text
  · obtain ⟨rest, rfl⟩ := hserver
    have hrest : rest ≠ [] := by
      rintro rfl
      exact absurd h (by decide)
    have hlast : ['/'] <:+ rest :=
      List.suffix_of_suffix_length_le hslash (List.suffix_append ['/', '/'] rest)
        (List.length_pos_iff.mpr hrest)
    exact parse_authority_append hmore hlast
  · -- the first two characters are those of the text alone
    have hserver' : ¬ ['/', '/'] <+: text ++ more := fun hlonger =>
      hserver (List.prefix_of_prefix_length_le hlonger (List.prefix_append text more) h.length_le)
    rw [parse_other_alone hserver, parse_other_alone hserver']
    apply congrArg Except.ok
    exact finish_append false ⟨scheme, none, none, none, "", none, none⟩ pathAlone hmore
      (path_alone_append hmore hslash)

theorem drop_slashes_append {text : List Char} (h : ['x', '/'] <:+ text) (more : List Char) :
    (text ++ more).dropWhile isSlash = text.dropWhile isSlash ++ more ∧
    ['/'] <:+ text.dropWhile isSlash := by
  have hstop : ∃ c ∈ text, isSlash c = false := ⟨'x', h.subset List.mem_cons_self, rfl⟩
  have hslash : ['/'] <:+ text := (List.suffix_append ['x'] ['/']).trans h
  refine ⟨(drop_while_append_of_stop hstop more).1, suffix_of_drop hslash ?_⟩
  apply List.length_pos_iff.mpr
  intro hnil
  obtain ⟨c, hc, hplain⟩ := hstop
  rw [List.dropWhile_eq_nil_iff.mp hnil c hc] at hplain
  cases hplain

def fileParts : List Char → Except UrlFault (String × List Char)
  | a :: b :: rest =>
    if isSlash a && isSlash b then
      if isDrive (Text.cut isSlash rest).1 then .ok ("", rest)
      else if (Text.cut isSlash rest).1.isEmpty then .ok ("", (Text.cut isSlash rest).2)
      else (Host.parse (Text.cut isSlash rest).1).map fun host => (host, (Text.cut isSlash rest).2)
    else .ok ("", a :: b :: rest)
  | path => .ok ("", path)

def fileUrl (host : String) (path : List Char) : Url :=
  ⟨"file", none, some host, none, String.ofList path, none, none⟩

theorem parse_file_eq (text : List Char) :
    parseFile text = (fileParts (Text.cut isPathEnd text).1).map fun found =>
      withTail true (fileUrl found.1 (parsePath true found.2)) (Text.cut isPathEnd text).2 := by
  rw [parseFile]
  obtain ⟨path, tail⟩ := Text.cut isPathEnd text
  dsimp only
  match path with
  | [] => rfl
  | [a] => rfl
  | a :: b :: rest =>
    by_cases hslashes : (isSlash a && isSlash b) = true
    · by_cases hdrive : isDrive (Text.cut isSlash rest).1 = true
      · simp only [fileParts, hslashes, hdrive, if_true]
        rfl
      · by_cases hnone : (Text.cut isSlash rest).1.isEmpty = true
        · simp only [fileParts, hslashes, hdrive, hnone, if_true]
          rfl
        · simp only [fileParts, hslashes, hdrive, hnone, if_true]
          cases Host.parse (Text.cut isSlash rest).1 with
          | error e => rfl
          | ok host => rfl
    · simp only [fileParts, hslashes]
      rfl

/-- The host of a file ends before the last slash, so what is added belongs to the path. -/
theorem file_parts_append {text : List Char} (h : ['x', '/'] <:+ text) (more : List Char) :
    fileParts (text ++ more) = (fileParts text).map (fun parts => (parts.1, parts.2 ++ more)) ∧
      ∀ parts, fileParts text = .ok parts → ['/'] <:+ parts.2 := by
  have hslash : ['/'] <:+ text := (List.suffix_append ['x'] ['/']).trans h
  match text with
  | [] => exact absurd h (by decide)
  | [a] => exact absurd h.length_le (Nat.lt_irrefl 1)
  | a :: b :: rest =>
    by_cases hslashes : (isSlash a && isSlash b) = true
    · -- behind the two slashes a host may follow, which the slash at the end closes
      have hrest : rest ≠ [] := by
        rintro rfl
        injection List.IsSuffix.eq_of_length h rfl with ha
        subst ha
        cases hslashes
      have hlast : ['/'] <:+ rest :=
        List.suffix_of_suffix_length_le hslash (List.suffix_append [a, b] rest)
          (List.length_pos_iff.mpr hrest)
      have hstop : ∃ c ∈ rest, isSlash c = true := ⟨'/', hlast.subset List.mem_cons_self, rfl⟩
      obtain ⟨c, later, hbelow, -⟩ := exists_cons_of_cut hstop
      have hlast' : ['/'] <:+ (Text.cut isSlash rest).2 := by
        apply suffix_of_drop hlast
        rw [show rest.dropWhile _ = c :: later from hbelow]
        simp
      simp only [List.cons_append, fileParts, hslashes, if_true, cut_append_of_stop hstop more]
      split
      · exact ⟨rfl, fun parts hparts => by cases hparts; exact hlast⟩
      · split
        · exact ⟨rfl, fun parts hparts => by cases hparts; exact hlast'⟩
        · cases Host.parse (Text.cut isSlash rest).1 with
          | error e => exact ⟨rfl, fun parts hparts => by cases hparts⟩
          | ok host => exact ⟨rfl, fun parts hparts => by cases hparts; exact hlast'⟩
    · simp only [List.cons_append, fileParts, hslashes]
      exact ⟨rfl, fun parts hparts => by cases hparts; exact hslash⟩

/-- The same goes for an address of a file. -/
theorem parse_file_append {text more : List Char} (hmore : ∀ c ∈ more, c.isAlphanum = true)
    (h : ['x', '/'] <:+ text) :
    parseFile (text ++ more) = (parseFile text).map fun u => u.extend (String.ofList more) := by
  rw [parse_file_eq, parse_file_eq]
  rcases cut_append_cases text (not_path_end_of_alphanum hmore) with
    ⟨htail, hcut⟩ | ⟨-, hnone, hnone'⟩
  · rw [hcut]
    cases fileParts (Text.cut isPathEnd text).1 with
    | error e => rfl
    | ok parts => exact congrArg Except.ok (with_tail_append hmore htail)
  · obtain ⟨hmoved, hlast⟩ := file_parts_append h more
    rw [hnone, hnone', hmoved]
    cases hparts : fileParts text with
    | error e => rfl
    | ok parts =>
      simp only [Except.map, parse_path_append hmore (hlast parts hparts)]
      simp [withTail, Text.cut, extend, fileUrl]

/-- What is continued at its end keeps its scheme. -/
theorem split_scheme_append {text : List Char} (h : ['x', '/'] <:+ text) (more : List Char) :
    (splitScheme? text = none ∧ splitScheme? (text ++ more) = none) ∨
      ∃ scheme rest, splitScheme? text = some (scheme, rest) ∧ splitScheme? (text ++ more) =
        some (scheme, rest ++ more) ∧
        ['x', '/'] <:+ rest := by
  have hstop : ∃ c ∈ text, isSchemeChar c = false := ⟨'/', h.subset (by decide), by decide⟩
  obtain ⟨hdrop, htake⟩ := drop_while_append_of_stop hstop more
  cases hleft : text.dropWhile isSchemeChar with
  | nil =>
    obtain ⟨c, hc, hplain⟩ := hstop
    rw [List.dropWhile_eq_nil_iff.mp hleft c hc] at hplain
    cases hplain
  | cons c rest =>
    by_cases hc : c = ':'
    · subst hc
      -- the colon is neither of the two characters at the end, so these stand behind it
      have hrest : ['x', '/'] <:+ rest := by
        have htail : ':' :: rest <:+ text := hleft ▸ List.dropWhile_suffix isSchemeChar
        rcases List.suffix_or_suffix_of_suffix h htail with hlast | hshort
        · rcases List.suffix_cons_iff.mp hlast with hsame | hlast
          · cases hsame
          · exact hlast
        · exact absurd (hshort.subset List.mem_cons_self) (by decide)
      simp only [splitScheme?, hdrop, htake, hleft, List.cons_append]
      split
      · exact .inr ⟨_, rest, rfl, rfl, hrest⟩
      · exact .inl ⟨rfl, rfl⟩
    · left
      simp only [splitScheme?, hdrop, hleft, List.cons_append]
      constructor
      · split
        · next hsame => exact absurd (List.cons.inj hsame).1 hc
        · rfl
      · split
        · next hsame => exact absurd (List.cons.inj hsame).1 hc
        · rfl

theorem clean_append_more {more : List Char} (hmore : ∀ c ∈ more, c.isAlphanum = true)
    (front : List Char) :
    clean (front ++ 'x' :: '/' :: more) =
      (front.dropWhile fun c => decide (c.toNat ≤ 0x20)).filter (fun c => !isIgnored c) ++ 'x' ::
        '/' :: more := by
  have hvisible : ∀ c ∈ 'x' :: '/' :: more, 0x20 < c.toNat := by
    intro c hc
    rcases List.mem_cons.mp hc with rfl | hc
    · decide
    · rcases List.mem_cons.mp hc with rfl | hc
      · decide
      · exact (harmless_of_alphanum (.inl (hmore c hc))).1.visible
  have hleft : (front ++ 'x' :: '/' :: more).dropWhile (fun c => decide (c.toNat ≤ 0x20)) =
      front.dropWhile (fun c => decide (c.toNat ≤ 0x20)) ++ 'x' :: '/' :: more := by
    rw [List.dropWhile_append, drop_edges_visible hvisible]
    split
    · next hnil => rw [List.isEmpty_iff.mp hnil, List.nil_append]
    · rfl
  -- from behind, nothing is dropped
  have hright (kept : List Char) :
      (kept ++ 'x' :: '/' :: more).reverse.dropWhile (fun c => decide (c.toNat ≤ 0x20)) =
        (kept ++ 'x' :: '/' :: more).reverse := by
    have hlast : ∀ c ∈ ('x' :: '/' :: more).reverse, 0x20 < c.toNat :=
      fun c hc => hvisible c (List.mem_reverse.mp hc)
    rw [List.reverse_append, List.dropWhile_append, drop_edges_visible hlast, if_neg (by simp)]
  simp only [clean, hleft, hright, List.reverse_reverse]
  rw [List.filter_append, filter_ignored_visible hvisible]

/-- What is stripped from a text is not in what continues it. -/
theorem clean_append {text more : List Char} (hmore : ∀ c ∈ more, c.isAlphanum = true)
    (h : ['x', '/'] <:+ text) :
    clean (text ++ more) = clean text ++ more ∧ ['x', '/'] <:+ clean text := by
  obtain ⟨front, rfl⟩ := h
  have hnone : ∀ c ∈ ([] : List Char), c.isAlphanum = true := fun c hc => absurd hc List.not_mem_nil
  rw [clean_append_more hnone, List.append_assoc, List.cons_append, List.singleton_append,
    clean_append_more hmore]
  exact ⟨by simp, List.suffix_append _ _⟩

/-- An address that ends with a slash may be continued before it is read or after. -/
theorem parse_append {text more : List Char} (hmore : ∀ c ∈ more, c.isAlphanum = true)
    (h : ['x', '/'] <:+ text) :
    parse (String.ofList (text ++ more)) =
      (parse (String.ofList text)).map fun u => u.extend (String.ofList more) := by
  obtain ⟨hclean, hopen⟩ := clean_append hmore h
  -- the scheme stands in front, and decides how the rest is read
  rw [parse, parse, String.toList_ofList, String.toList_ofList, hclean]
  rcases split_scheme_append hopen more with ⟨hnone, hnone'⟩ | ⟨scheme, rest, hsome, hsome', hrest⟩
  · rw [hnone, hnone']
    rfl
  · rw [hsome, hsome']
    dsimp only
    by_cases hfile : scheme = "file"
    · rw [if_pos hfile, if_pos hfile]
      exact parse_file_append hmore hrest
    · rw [if_neg hfile, if_neg hfile]
      by_cases hserver : (impliedSocket? scheme).isSome = true
      · obtain ⟨hdropped, hslash⟩ := drop_slashes_append hrest more
        rw [if_pos hserver, if_pos hserver, hdropped]
        exact parse_authority_append hmore hslash
      · rw [if_neg hserver, if_neg hserver]
        exact parse_other_append hmore hrest

theorem sent_extend (u : Url) (more : String) : (u.extend more).sent = u.sent ++ more := by
  obtain ⟨scheme, user, host, socket, path, query, fragment⟩ := u
  apply String.toList_injective
  cases fragment with
  | some f => simp [extend, sent]
  | none =>
    cases query with
    | some q => simp [extend, sent]
    | none => simp [extend, sent]

theorem outgoing_extend (u : Url) (more : String) :
    (u.extend more).outgoing = u.outgoing.extend more := by
  obtain ⟨scheme, user, host, socket, path, query, fragment⟩ := u
  have hsame :
      Credentials.ofUrl?
        (extend ⟨scheme, user, host, socket, path, query, fragment⟩ more) =
      Credentials.ofUrl? ⟨scheme, user, host, socket, path, query, fragment⟩ := by
    cases fragment <;> cases query <;> rfl
  simp only [outgoing, hsame]
  split
  · cases fragment <;> cases query <;> rfl
  · rfl

theorem host_extend (u : Url) (more : String) : (u.extend more).host = u.host := by
  obtain ⟨scheme, user, host, socket, path, query, fragment⟩ := u
  cases fragment <;> cases query <;> rfl

/-- Whether an address can be sent is a matter of the length of what is added. -/
theorem is_sendable_extend {more more' : String} (u : Url)
    (h : more.utf8ByteSize = more'.utf8ByteSize) :
    (u.extend more).isSendable = (u.extend more').isSendable := by
  simp only [isSendable, host_extend, sent_extend, String.utf8ByteSize_append, h]

end Url

theorem utf8_byte_size_of_alphanum {more : List Char} (hmore : ∀ c ∈ more, c.isAlphanum = true) :
    (String.ofList more).utf8ByteSize = more.length :=
  Text.utf8_byte_size_of_ascii fun c hc => (harmless_of_alphanum (.inl (hmore c hc))).1.utf8_size

/-- When a request can go out to one address, it can to any other that is as long and differs only
in letters and digits at the end. -/
theorem exists_heading_of_sibling {text more more' : List Char} {given : Option Credentials}
    {found : String × Option String} (hmore : ∀ c ∈ more, c.isAlphanum = true)
    (hmore' : ∀ c ∈ more', c.isAlphanum = true) (hlength : more.length = more'.length)
    (htext : ['x', '/'] <:+ text)
    (h : heading (String.ofList (text ++ more)) given = .ok found) :
    ∃ found', heading (String.ofList (text ++ more')) given = .ok found' := by
  rw [heading, Url.parse_append hmore htext] at h
  rw [heading, Url.parse_append hmore' htext]
  cases hparsed : Url.parse (String.ofList text) with
  | error fault =>
    rw [hparsed] at h
    cases h
  | ok u =>
    rw [hparsed] at h
    have hsame : (u.extend (String.ofList more)).outgoing.isSendable =
        (u.extend (String.ofList more')).outgoing.isSendable := by
      have hsize : (String.ofList more).utf8ByteSize = (String.ofList more').utf8ByteSize := by
        rw [utf8_byte_size_of_alphanum hmore, utf8_byte_size_of_alphanum hmore', hlength]
      rw [Url.outgoing_extend, Url.outgoing_extend, Url.is_sendable_extend u.outgoing hsize]
    cases hsendable : (u.extend (String.ofList more)).outgoing.isSendable with
    | false =>
      simp [Except.map, hsendable] at h
    | true =>
      rw [hsame] at hsendable
      simp [Except.map, hsendable]

end ChainLens.Web
