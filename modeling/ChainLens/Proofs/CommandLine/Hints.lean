import ChainLens.CommandLine.Advice
import ChainLens.Proofs.Text.Numerals

/-!
The hint for an answer with a failed status. It is chosen by words in a text that quotes the address
of the request, so it goes by the status exactly where the address has none of these words in it.
-/

namespace ChainLens.CommandLine

/-- Words stand in a text when they are a piece of it. -/
theorem occurs_in_iff {words text : List Char} : occursIn words text = true ↔ words <:+: text := by
  induction text with
  | nil => rw [occursIn, List.isEmpty_iff, List.infix_nil]
  | cons c rest ih =>
    rw [occursIn, Bool.or_eq_true, List.isPrefixOf_iff_prefix, ih, List.infix_cons_iff]

theorem mentions_iff {text words : String} :
    mentions text words = true ↔ words.toList <:+: text.toList := occurs_in_iff

section Occurrences

variable {words sep front behind : List Char}

/-- Words do not reach over a separator that shares no character with them. -/
theorem infix_around_iff (hwords : words ≠ []) (hsep : sep ≠ []) (hapart : ∀ c ∈ words, c ∉ sep) :
    words <:+: front ++ (sep ++ behind) ↔ words <:+: front ∨ words <:+: behind := by
  have hnowhere {part : List Char} (hpart : part ≠ []) (hof : part ⊆ words) : ¬ part ⊆ sep := by
    intro hinside
    obtain ⟨c, hc⟩ := List.exists_mem_of_ne_nil part hpart
    exact hapart c (hof hc) (hinside hc)
  constructor
  · intro hfound
    rcases List.infix_append_iff.mp hfound with hfront | hlater | ⟨u, v, rfl, hu, hv⟩
    · exact .inl hfront
    · rcases List.infix_append_iff.mp hlater with hinside | hbehind | ⟨u, v, rfl, hu, hv⟩
      · exact absurd hinside.subset (hnowhere hwords fun _ hc => hc)
      · exact .inr hbehind
      · by_cases hnone : u = []
        · rw [hnone, List.nil_append]
          exact .inr hv.isInfix
        · exact absurd hu.subset (hnowhere hnone (List.subset_append_left u v))
    · by_cases hnone : v = []
      · rw [hnone, List.append_nil]
        exact .inl hu.isInfix
      · -- what stands behind the seam begins as the separator does
        obtain ⟨c, rest, rfl⟩ := List.exists_cons_of_ne_nil hnone
        obtain ⟨s, seps, rfl⟩ := List.exists_cons_of_ne_nil hsep
        have hsame : c = s := (List.cons_prefix_cons.mp hv).1
        have hof : c ∈ u ++ c :: rest := List.mem_append_right u List.mem_cons_self
        rw [hsame] at hof
        exact absurd List.mem_cons_self (hapart s (hsame ▸ hof))
  · rintro (hfront | hbehind)
    · exact hfront.trans (List.prefix_append front _).isInfix
    · exact hbehind.trans
        ((List.suffix_append sep behind).trans (List.suffix_append front _)).isInfix

/-- Words do not reach over a seam if nothing that they begin with stands in front of it. -/
theorem infix_behind_iff (hout : ¬ words <:+: front)
    (hseam : ∀ n < words.length, ¬ words.take (n + 1) <:+ front) :
    words <:+: front ++ behind ↔ words <:+: behind := by
  constructor
  · intro hfound
    rcases List.infix_append_iff.mp hfound with hfront | hbehind | ⟨u, v, rfl, hu, hv⟩
    · exact absurd hfront hout
    · exact hbehind
    · cases u with
      | nil => exact hv.isInfix
      | cons c rest =>
        have hbegin : (c :: rest ++ v).take (rest.length + 1) = c :: rest := List.take_left' rfl
        have hshort : rest.length < (c :: rest ++ v).length := by
          rw [List.length_append, List.length_cons]
          omega
        have hends := hseam rest.length hshort
        rw [hbegin] at hends
        exact absurd hu hends
  · intro hbehind
    exact hbehind.trans (List.suffix_append front behind).isInfix

end Occurrences

def statusStart : List Char := "backend unavailable: ".toList ++ "backend returned HTTP ".toList

def statusSeam : List Char := " for ".toList

def statusText (code : Nat) (url : String) : String :=
  Failure.message (.unavailable (.status code url))

theorem to_list_numeral (code : Nat) : (toString code).toList = Nat.toDigits 10 code :=
  String.toList_ofList

theorem to_list_status_text (code : Nat) (url : String) :
    (statusText code url).toList =
      statusStart ++ (Nat.toDigits 10 code ++ (statusSeam ++ url.toList)) := by
  have htext : statusText code url =
      "backend unavailable: " ++ ("backend returned HTTP " ++ toString code ++ " for " ++ url) :=
        rfl
  unfold statusStart statusSeam
  simp only [htext, String.toList_append, to_list_numeral, List.append_assoc]

theorem not_mem_of_is_digit {digits others : List Char}
    (hdigits : ∀ c ∈ digits, Text.isDigit c = true)
    (hothers : others.any Text.isDigit = false) : ∀ c ∈ digits, c ∉ others := by
  intro c hc hc'
  exact List.any_eq_false.mp hothers c hc' (hdigits c hc)

theorem is_digit_of_mem_numeral (code : Nat) : ∀ c ∈ Nat.toDigits 10 code, Text.isDigit c = true :=
  fun _ hc => Text.is_digit_of_mem hc

structure Lettered (words : List Char) : Prop where
  ne_nil : words ≠ []
  no_digit : words.any Text.isDigit = false
  not_in_start : occursIn words statusStart = false
  not_in_seam : occursIn words statusSeam = false
  not_over_seam : ∀ n < words.length, ¬ words.take (n + 1) <:+ statusSeam

theorem Lettered.not_infix_numeral {words : List Char} (h : Lettered words) (code : Nat) :
    ¬ words <:+: (toString code).toList := by
  intro hinside
  rw [to_list_numeral] at hinside
  obtain ⟨c, hc⟩ := List.exists_mem_of_ne_nil words h.ne_nil
  exact not_mem_of_is_digit (is_digit_of_mem_numeral code) h.no_digit c (hinside.subset hc) hc

/-- Such words stand in the text about a status only if the address has them. -/
theorem Lettered.infix_status_text_iff {words : List Char} (h : Lettered words) (code : Nat)
    (url : String) :
    words <:+: (statusText code url).toList ↔ words <:+: url.toList := by
  have hdigits : ∀ c ∈ words, c ∉ Nat.toDigits 10 code := fun c hc hdigit =>
    not_mem_of_is_digit (is_digit_of_mem_numeral code) h.no_digit c hdigit hc
  have hstart : ¬ words <:+: statusStart := by
    rw [← occurs_in_iff, h.not_in_start]
    exact Bool.false_ne_true
  have hseam : ¬ words <:+: statusSeam := by
    rw [← occurs_in_iff, h.not_in_seam]
    exact Bool.false_ne_true
  rw [to_list_status_text, infix_around_iff h.ne_nil Nat.toDigits_ne_nil hdigits,
    infix_behind_iff hseam h.not_over_seam]
  exact or_iff_right hstart

/-- Digits stand in the text of a failed status where they stand in the status or in the address. -/
theorem infix_status_text_of_digits {words : List Char} (hne : words ≠ [])
    (hdigits : ∀ c ∈ words, Text.isDigit c = true) (code : Nat) (url : String) :
    words <:+: (statusText code url).toList ↔ words <:+: (toString code).toList ∨
    words <:+: url.toList := by
  have hstart : ∀ c ∈ words, c ∉ statusStart := not_mem_of_is_digit hdigits (by decide)
  have hseam : ∀ c ∈ words, c ∉ statusSeam := not_mem_of_is_digit hdigits (by decide)
  have hnowhere : ¬ words <:+: [] := fun h => hne (List.infix_nil.mp h)
  rw [to_list_status_text, ← List.nil_append (statusStart ++ _),
    infix_around_iff hne (by decide) hstart, or_iff_right hnowhere,
    infix_around_iff hne (by decide) hseam, to_list_numeral]

/-- The words that are looked for, in the order in which they are. -/
def connectionWords : List String := ["dns error", "Could not resolve host", "tls", "certificate"]

def accessWords : List String := ["401", "403"]

def pathWords : List String := ["404"]

def sendWords : List String := ["error sending request for url"]

def allWords : List String := connectionWords ++ accessWords ++ pathWords ++ sendWords

theorem lettered_of_mem {words : String} (h : words ∈ connectionWords ++ sendWords) :
    Lettered words.toList := by
  have hchecked : ∀ words ∈ connectionWords ++ sendWords,
      words.toList ≠ [] ∧ words.toList.any Text.isDigit = false ∧
        occursIn words.toList statusStart = false ∧ occursIn words.toList statusSeam = false ∧
          ∀ n < words.toList.length, ¬ words.toList.take (n + 1) <:+ statusSeam := by
    decide
  obtain ⟨hne, hdigit, hstart, hseam, hover⟩ := hchecked words h
  exact ⟨hne, hdigit, hstart, hseam, hover⟩

/-- The words looked for are of two kinds: those no status completes, and statuses. -/
theorem letters_or_digits {words : String} (h : words ∈ allWords) :
    words ∈ connectionWords ++ sendWords ∨ words ∈ accessWords ++ pathWords := by
  simp only [allWords, List.mem_append] at h ⊢
  grind

/-- The words stand in the text about a status if the status or the address has them. -/
theorem mentions_status_text_iff {words : String} (h : words ∈ allWords) (code : Nat)
    (url : String) :
    mentions (statusText code url) words = true ↔ mentions (toString code) words = true ∨
    mentions url words = true := by
  rw [mentions_iff, mentions_iff, mentions_iff]
  cases letters_or_digits h with
  | inl hletters =>
    have hlettered := lettered_of_mem hletters
    rw [hlettered.infix_status_text_iff, or_iff_right]
    exact hlettered.not_infix_numeral code
  | inr hnumeral =>
    have hchecked : ∀ words ∈ accessWords ++ pathWords,
        words.toList ≠ [] ∧ words.toList.all Text.isDigit = true := by decide
    obtain ⟨hne, hdigits⟩ := hchecked words hnumeral
    exact infix_status_text_of_digits hne (List.all_eq_true.mp hdigits) code url

def Silent (words : List String) (text : String) : Prop := ∀ w ∈ words, mentions text w = false

instance (words : List String) (text : String) : Decidable (Silent words text) :=
  inferInstanceAs (Decidable (∀ w ∈ words, mentions text w = false))

theorem silent_status_text_iff {words : List String} (h : words ⊆ allWords) (code : Nat)
    (url : String) :
    Silent words (statusText code url) ↔ Silent words (toString code) ∧ Silent words url := by
  have heach : ∀ w ∈ words, mentions (statusText code url) w = false ↔
      mentions (toString code) w = false ∧ mentions url w = false := by
    intro w hw
    rw [← Bool.not_eq_true, mentions_status_text_iff (h hw), not_or, Bool.not_eq_true,
      Bool.not_eq_true]
  constructor
  · intro hsilent
    exact ⟨fun w hw => ((heach w hw).mp (hsilent w hw)).1, fun w hw =>
      ((heach w hw).mp (hsilent w hw)).2⟩
  · intro hsilent w hw
    exact (heach w hw).mpr ⟨hsilent.1 w hw, hsilent.2 w hw⟩

/-- A status of three digits is told by its digits. -/
theorem mentions_numeral_iff {code named : Nat} (hcode : code < 1000) (hnamed : 100 ≤ named) :
    mentions (toString code) (toString named) = true ↔ code = named := by
  rw [mentions_iff, to_list_numeral, to_list_numeral]
  constructor
  · intro hinside
    have hshort : (Nat.toDigits 10 code).length ≤ 3 :=
      (Nat.length_toDigits_le_iff (by decide) (by decide)).mpr hcode
    have hlong : ¬ (Nat.toDigits 10 named).length ≤ 2 := by
      rw [Nat.length_toDigits_le_iff (by decide) (by decide)]
      omega
    have hsame : Nat.toDigits 10 named = Nat.toDigits 10 code := hinside.eq_of_length_le (by omega)
    rw [← Text.of_digits_to_digits code, ← hsame, Text.of_digits_to_digits]
  · rintro rfl
    exact List.infix_rfl

def accessHint : String :=
  "hint: authentication failed; verify --rpc-user/--rpc-pass or --rpc-cookie-file"

def pathHint : String :=
  "hint: endpoint path is invalid; the node needs -rest=1 and the URL must end in /rest"

def statusHint? (code : Nat) : Option String :=
  if code = 401 ∨ code = 403 then some accessHint else if code = 404 then some pathHint else none

/-- The words that lead to a hint which the status does not call for, unless others come before
them. -/
def misleading (code : Nat) : List String :=
  if code = 401 ∨ code = 403 then connectionWords
  else if code = 404 then connectionWords ++ accessWords
  else allWords

theorem silent_cons_iff {w : String} {words : List String} {text : String} :
    Silent (w :: words) text ↔ mentions text w = false ∧ Silent words text := List.forall_mem_cons

theorem silent_nil {text : String} : Silent [] text := List.forall_mem_nil _

/-- The hint about access is given for its own words, unless some for a lost connection stand in the
text. -/
theorem hint_eq_access_iff {text : String} :
    hint? text = some accessHint ↔ Silent connectionWords text ∧ ¬ Silent accessWords text := by
  simp only [hint?, connectionWords, accessWords, accessHint, silent_cons_iff]
  repeat' split
  all_goals grind [silent_nil]

theorem hint_eq_path_iff {text : String} :
    hint? text = some pathHint ↔ Silent (connectionWords ++ accessWords) text ∧
    ¬ Silent pathWords text := by
  simp only [hint?, connectionWords, accessWords, pathWords, pathHint, List.cons_append,
    List.nil_append, silent_cons_iff]
  repeat' split
  all_goals grind [silent_nil]

/-- No hint is given when none of the words stand in the text. -/
theorem hint_eq_none_iff {text : String} : hint? text = none ↔ Silent allWords text := by
  simp only [hint?, allWords, connectionWords, accessWords, pathWords, sendWords, List.cons_append,
    List.nil_append, silent_cons_iff]
  repeat' split
  all_goals grind [silent_nil]

/-- What is said of a failed status, with a hint or without one. -/
def advised (primary : String) (code : Nat) (url : String) (hint : Option String) : List String :=
  ["while contacting the backend", String.intercalate "\n"
    ([s!"could not query backend `{primary}`",
      s!"backend error: backend unavailable: backend returned HTTP {code} for {url}"] ++
        hint.toList)]

theorem explain_status (primary : String) (code : Nat) (url : String) :
    explain primary (.unavailable (.status code url)) =
      advised primary code url (hint? (statusText code url)) := rfl

/-- The hint stands on a line of its own, behind the other lines. -/
theorem intercalate_hint (head second : String) (hint : Option String) :
    (String.intercalate "\n" ([head, second] ++ hint.toList)).toList =
      (head.toList ++ ('\n' :: second.toList)) ++
        hint.elim [] (fun words => '\n' :: words.toList) := by
  have hbreak : "\n".toList = ['\n'] := rfl
  cases hint <;>
    simp [hbreak, String.intercalate_cons_cons]

/-- What is said tells which hint was given. -/
theorem advised_inj {primary url : String} {code : Nat} {hint hint' : Option String}
    (h : advised primary code url hint = advised primary code url hint') : hint = hint' := by
  have htext := congrArg String.toList (List.cons.inj (List.cons.inj h).2).1
  rw [intercalate_hint, intercalate_hint] at htext
  have hbehind := List.append_cancel_left htext
  cases hint with
  | none =>
    cases hint' with
    | none => rfl
    | some words => cases hbehind
  | some words =>
    cases hint' with
    | none => cases hbehind
    | some words' => exact congrArg some (String.toList_inj.mp (List.cons.inj hbehind).2)

theorem not_silent_of_numeral {words : List String} {w : String} {code : Nat} (hw : w ∈ words)
    (hall : w ∈ allWords)
    (hsaid : mentions (toString code) w = true) (url : String) :
    ¬ Silent words (statusText code url) := by
  intro hsilent
  have hunsaid := hsilent w hw
  rw [(mentions_status_text_iff hall code url).mpr (.inl hsaid)] at hunsaid
  cases hunsaid

/-- Which failures are explained by their status: those where neither the digits of the status nor
the address has a word that misleads. -/
theorem explain_status_eq_iff (primary : String) (code : Nat) (url : String) :
    explain primary (.unavailable (.status code url)) =
      advised primary code url (statusHint? code) ↔
      Silent (misleading code) (toString code) ∧ Silent (misleading code) url := by
  have hhint : explain primary (.unavailable (.status code url)) =
      advised primary code url (statusHint? code) ↔
      hint? (statusText code url) = statusHint? code := by
    rw [explain_status]
    exact ⟨advised_inj, fun h => by rw [h]⟩
  have hof {words : List String} (h : words ⊆ allWords) := silent_status_text_iff h code url
  rw [hhint]
  -- the words of the hint that the status calls for are in the text, those before it must not be
  unfold statusHint? misleading
  split
  next haccess =>
    have hsaid : ¬ Silent accessWords (statusText code url) := by
      rcases haccess with rfl | rfl
      · exact not_silent_of_numeral (w := "401") (by decide) (by decide) (by decide) url
      · exact not_silent_of_numeral (w := "403") (by decide) (by decide) (by decide) url
    rw [hint_eq_access_iff, and_iff_left hsaid]
    exact hof (by decide)
  next =>
    split
    next hpath =>
      have hsaid : ¬ Silent pathWords (statusText code url) := by
        rw [hpath]
        exact not_silent_of_numeral (w := "404") (by decide) (by decide) (by decide) url
      rw [hint_eq_path_iff, and_iff_left hsaid]
      exact hof (by decide)
    next =>
      rw [hint_eq_none_iff]
      exact hof (List.Subset.refl allWords)

theorem misleading_subset (code : Nat) : misleading code ⊆ allWords := by
  unfold misleading
  split
  · decide
  · split
    · decide
    · exact List.Subset.refl allWords

/-- A status of three digits misleads by itself to no other hint. -/
theorem silent_misleading_numeral {code : Nat} (hcode : code < 1000) :
    Silent (misleading code) (toString code) := by
  intro w hw
  rw [← Bool.not_eq_true]
  intro hsaid
  have hsame (named : Nat) (hnamed : 100 ≤ named) (h : w = toString named) : code = named :=
    (mentions_numeral_iff hcode hnamed).mp (h ▸ hsaid)
  cases letters_or_digits (misleading_subset code hw) with
  | inl hletters => exact (lettered_of_mem hletters).not_infix_numeral code (mentions_iff.mp hsaid)
  | inr hdigits =>
    -- the digits of a status are not among the words that mislead about it
    have hwords : accessWords ++ pathWords = [toString 401, toString 403, toString 404] := rfl
    have hnamed : w = toString 401 ∨ w = toString 403 ∨ w = toString 404 := by
      rw [hwords] at hdigits
      simpa only [List.mem_cons, List.not_mem_nil, or_false] using hdigits
    rcases hnamed with h | h | h <;>
      rw [hsame _ (by decide) h, h] at hw <;>
      exact absurd hw (by decide)

/-- The hint goes by the status alone, for every source and every status that an answer can have. -/
def FollowsStatus (url : String) : Prop :=
  ∀ primary code, code < 1000 →
    explain primary (.unavailable (.status code url)) = advised primary code url (statusHint? code)

/-- The hint goes by the status exactly for those addresses that have none of the words in them. -/
theorem hints_follow_status_iff (url : String) : FollowsStatus url ↔ Silent allWords url := by
  constructor
  · -- a status that calls for no hint is misled by each of the words
    intro hfollows
    exact ((explain_status_eq_iff "" 500 url).mp (hfollows "" 500 (by decide))).2
  · intro hquiet primary code hcode
    apply (explain_status_eq_iff primary code url).mpr
    exact ⟨silent_misleading_numeral hcode, fun w hw => hquiet w (misleading_subset code hw)⟩

def portAddress : String := "http://node.test:4010/rest/chaininfo.json"

/-- A server that breaks down is taken for one that asks for credentials, only because of its
port. -/
theorem not_every_hint_follows_status :
    explain "http://node.test:4010/rest" (.unavailable (.status 500 portAddress)) =
        advised "http://node.test:4010/rest" 500 portAddress (some accessHint) ∧
      ¬ FollowsStatus portAddress := by
  have hport : mentions portAddress "401" = true := by decide
  have hquiet : Silent connectionWords (statusText 500 portAddress) :=
    (silent_status_text_iff (by decide) 500 portAddress).mpr ⟨by decide, by decide⟩
  have hsaid : ¬ Silent accessWords (statusText 500 portAddress) := by
    rw [silent_status_text_iff (by decide)]
    intro hsilent
    have hunsaid := hsilent.2 "401" (by decide)
    rw [hport] at hunsaid
    cases hunsaid
  have hhint : hint? (statusText 500 portAddress) = some accessHint :=
    hint_eq_access_iff.mpr ⟨hquiet, hsaid⟩
  refine ⟨by rw [explain_status, hhint], ?_⟩
  intro hfollows
  have hnone := hfollows "http://node.test:4010/rest" 500 (by decide)
  rw [explain_status, hhint] at hnone
  cases advised_inj hnone

end ChainLens.CommandLine
