import ChainLens.Json.Reader
import ChainLens.Json.Writer
import ChainLens.Proofs.Text.Numerals
import Mathlib.Data.Option.Basic

/-!
Reading JSON that was written. What is compactly written without broken texts and without fractions
reads as the value that was written, of which nothing is left out, put in another place or taken for
anything else.
-/

namespace ChainLens.Json

mutual

/-- The values that are written without loss: their numbers are whole, and so are their texts and
keys. -/
def Plain : Json → Prop
  | .null => True
  | .bool _ => True
  | .number (.whole _) => True
  | .number _ => False
  | .string t => t.isSome = true
  | .array items => PlainItems items
  | .object members => PlainMembers members

def PlainItems : List Json → Prop
  | [] => True
  | item :: rest => item.Plain ∧ PlainItems rest

def PlainMembers : List (JsonText × Json) → Prop
  | [] => True
  | (key, value) :: rest => key.isSome = true ∧ value.Plain ∧ PlainMembers rest

end

/-- What may follow a value: nothing, or a sign that a number does not go on with. -/
inductive Ends : Rest → Prop
  | nothing : Ends []
  | comma (rest : Rest) : Ends (',' :: rest)
  | bracket (rest : Rest) : Ends (']' :: rest)
  | brace (rest : Rest) : Ends ('\x7d' :: rest)

section Texts

theorem escaped_unit_control (c : Char) (h : c.toNat < 0x20) :
    escapedUnit? ['0', '0', Hex.digit (c.toNat / 16), Hex.digit (c.toNat % 16)] =
      some (.char c) := by
  have hhigh := Hex.value_digit (c.toNat / 16) (by omega)
  have hlow := Hex.value_digit (c.toNat % 16) (by omega)
  have hzero : Hex.value? '0' = some 0 := by decide
  have hcode : 16 * (c.toNat / 16) + c.toNat % 16 = c.toNat := Nat.div_add_mod _ 16
  have hwhole : ¬ (0xD800 ≤ c.toNat ∧ c.toNat ≤ 0xDFFF) := by omega
  have hchar : Char.ofNat c.toNat = c := Char.ofNat_toNat c
  simp [escapedUnit?, hzero, hhigh, hlow, hcode, hwhole, hchar]

/-- A character is written as an escape of one letter, as one of four digits, or as it is. -/
inductive Escape : Char → List Char → Prop
  | letter {c d : Char} (hu : d ≠ 'u') (hd : escaped? d = some c) : Escape c ['\\', d]
  | digits {c : Char} (h : c.toNat < 0x20) :
    Escape c ['\\', 'u', '0', '0', Hex.digit (c.toNat / 16), Hex.digit (c.toNat % 16)]
  | plain {c : Char} (hquote : c ≠ '"') (hbackslash : c ≠ '\\') (h : 0x20 ≤ c.toNat) : Escape c [c]

/-- Every character is written as one of the escapes. -/
theorem escape_escape_char (c : Char) : Escape c (escapeChar c) := by
  -- seven characters have an escape of one letter
  by_cases hnamed : c ∈ ['"', '\\', '\x08', '\x0c', '\n', '\r', '\t']
  · simp only [List.mem_cons, List.not_mem_nil, or_false] at hnamed
    rcases hnamed with rfl | rfl | rfl | rfl | rfl | rfl | rfl
    all_goals exact .letter (by decide) rfl
  · simp only [List.mem_cons, List.not_mem_nil, or_false, not_or] at hnamed
    obtain ⟨hquote, hbackslash, hb, hf, hn, hr, ht⟩ := hnamed
    simp only [escapeChar, beq_iff_eq, hquote, hbackslash, hb, hf, hn, hr, ht, if_false]
    by_cases hcontrol : c.toNat < 0x20
    · rw [if_pos hcontrol]
      exact .digits hcontrol
    · rw [if_neg hcontrol]
      exact .plain hquote hbackslash (Nat.le_of_not_lt hcontrol)

/-- What an escape is written as reads as the character it stands for. -/
theorem Escape.read_units {c : Char} {written : List Char} (h : Escape c written) (rest : Rest) :
    readUnits (written ++ rest) = (readUnits rest).map fun read => (.char c :: read.1, read.2) := by
  cases h with
  | letter hu hd =>
    simp only [List.cons_append, List.nil_append]
    rw [readUnits]
    · simp only [hd, Option.bind_eq_bind, Option.bind_some]
      cases readUnits rest with
      | none => rfl
      | some read => rfl
    · intro _ _ _ _ _ hsame
      exact absurd hsame hu
  | digits hcontrol =>
    simp only [List.cons_append, List.nil_append]
    rw [readUnits, escaped_unit_control c hcontrol]
    cases readUnits rest with
    | none => rfl
    | some read => rfl
  -- a character that stands for itself is none that the reader treats apart
  | plain hquote hbackslash hvisible =>
    have hallowed : (c != '\\' && decide (0x20 ≤ c.toNat)) = true := by simp [hbackslash, hvisible]
    have hguard : guard ((c != '\\' && decide (0x20 ≤ c.toNat)) = true) = some () := if_pos hallowed
    rw [List.cons_append, List.nil_append, readUnits]
    · rw [hguard]
      cases readUnits rest with
      | none => rfl
      | some read => rfl
    · exact hquote
    · intro _ _ _ _ _ hsame
      exact absurd hsame hbackslash
    · intro _ _ hsame
      exact absurd hsame hbackslash

/-- A text is read up to the quote that closes it. -/
theorem read_units_escaped (chars : List Char) (rest : Rest) :
    readUnits (chars.flatMap escapeChar ++ '"' :: rest) = some (chars.map .char, rest) := by
  induction chars with
  | nil => rfl
  | cons c chars ih =>
    rw [List.flatMap_cons, List.append_assoc, (escape_escape_char c).read_units, ih]; rfl

theorem join_units_chars (chars : List Char) : joinUnits (chars.map .char) = some chars := by
  induction chars with
  | nil => rfl
  | cons c chars ih => rw [List.map_cons, joinUnits, ih, Option.map_some]

/-- A quoted text is read up to its closing quote. -/
theorem read_text_quote (s : String) (rest : Rest) :
    ∃ inner, (quote s).toList ++ rest = '"' :: inner ∧ readText inner = some (some s, rest) := by
  refine ⟨s.toList.flatMap escapeChar ++ '"' :: rest, ?_, ?_⟩
  · simp [quote]
  · rw [readText, read_units_escaped]
    simp [join_units_chars]

end Texts

section Numbers

theorem Ends.head_not_digit {rest : Rest} (h : Ends rest) :
    ∀ c ∈ rest.head?, Text.isDigit c = false := by
  intro c hc
  cases h with
  | nothing => cases hc
  | _ => obtain rfl := Option.some.inj hc; rfl

theorem Ends.read_fraction {rest : Rest} (h : Ends rest) :
    readFraction rest = some (none, rest) := by
  cases h with
  | _ => rfl

theorem Ends.read_exponent {rest : Rest} (h : Ends rest) :
    readExponent rest = some (none, rest) := by
  cases h with
  | _ => rfl

/-- A numeral is read as the number it spells, with the sign before it. -/
theorem read_unsigned_numeral {negative : Bool} {n : Nat} {rest : Rest} (h : Ends rest)
    (hzero : negative = true → 0 < n) :
    readUnsigned negative (Nat.toDigits 10 n ++ rest) =
      some (.whole (if negative then -n else n), rest) := by
  obtain ⟨hfront, hback⟩ := Text.span_numeral n h.head_not_digit
  have hdigits : readDigits (Nat.toDigits 10 n ++ rest) = some (Nat.toDigits 10 n, rest) := by
    rw [readDigits, hfront, hback]
    cases hnone : Nat.toDigits 10 n with
    | nil => exact absurd hnone Nat.toDigits_ne_nil
    | cons c digits => rfl
  -- a numeral has no zero in front, and zero no sign
  have hleading : ((Nat.toDigits 10 n).length == 1 || (Nat.toDigits 10 n).head? != some '0') =
      true := by
    have hcases := Text.leading_digit n
    simpa [bne] using hcases
  have hsigned : (negative && n == 0) = false := by
    cases negative with
    | false => rfl
    | true => simp [Nat.ne_of_gt (hzero rfl)]
  have hguard : guard (((Nat.toDigits 10 n).length == 1 || (Nat.toDigits 10 n).head? != some '0') =
      true) =
      some () := if_pos hleading
  rw [readUnsigned, hdigits]
  dsimp only [Option.bind_eq_bind, Option.bind_some]
  rw [hguard]
  simp only [Option.bind_some, h.read_fraction, h.read_exponent, Text.of_digits_to_digits, hsigned]
  rfl

theorem read_number_unsigned {c : Char} (h : c ≠ '-') (tail : Rest) :
    readNumber (c :: tail) = readUnsigned false (c :: tail) := by
  rw [readNumber]
  intro _ hsame
  exact absurd (List.cons.inj hsame).1 h

/-- The front of a number, by which it is told from other values. -/
def BeginsNumber (c : Char) : Prop := c ∈ ['-', '0', '1', '2', '3', '4', '5', '6', '7', '8', '9']

theorem begins_number_of_digit {c : Char} (h : Text.isDigit c = true) : BeginsNumber c := by
  have hdigits : ∀ n ≤ 57, 48 ≤ n → BeginsNumber (Char.ofNat n) := by
    unfold BeginsNumber
    decide
  simp only [Text.isDigit, Bool.and_eq_true, decide_eq_true_eq] at h
  have hc := hdigits c.toNat h.2 h.1
  rwa [Char.ofNat_toNat] at hc

theorem read_value_number {c : Char} (h : BeginsNumber c) (fuel : Nat) (tail : Rest) :
    readValue (fuel + 1) (c :: tail) = (readNumber (c :: tail)).map fun read =>
      (.number read.1, read.2) := by
  simp only [BeginsNumber, List.mem_cons, List.not_mem_nil, or_false] at h
  rcases h with rfl | rfl | rfl | rfl | rfl | rfl | rfl | rfl | rfl | rfl | rfl
  all_goals rfl

/-- A whole number is read back from what it is written as. -/
theorem read_number_whole (n : Int) {rest : Rest} (h : Ends rest) :
    ∃ c tail, (toString n).toList ++ rest = c :: tail ∧ BeginsNumber c ∧
      readNumber (c :: tail) = some (.whole n, rest) := by
  cases n with
  | ofNat n =>
    have hwritten : (toString (Int.ofNat n)).toList = Nat.toDigits 10 n := Nat.toList_repr
    have hread : readUnsigned false (Nat.toDigits 10 n ++ rest) = some (.whole n, rest) :=
      read_unsigned_numeral h nofun
    -- the first digit tells it from a number with a sign
    obtain ⟨c, digits, hdigits⟩ :=
      List.exists_cons_of_ne_nil (Nat.toDigits_ne_nil (n := n) (b := 10))
    have hdigit : Text.isDigit c = true := Text.is_digit_of_mem (hdigits ▸ List.mem_cons_self)
    have hsign : c ≠ '-' := by
      intro hsame
      rw [hsame] at hdigit
      cases hdigit
    rw [hdigits] at hread
    refine ⟨c, digits ++ rest, by rw [hwritten, hdigits]; rfl, begins_number_of_digit hdigit, ?_⟩
    rw [read_number_unsigned hsign]
    exact hread
  | negSucc n =>
    have hwritten : (toString (Int.negSucc n)).toList = '-' :: Nat.toDigits 10 (n + 1) := by
      have hsplit : toString (Int.negSucc n) = "-" ++ (n + 1).repr := rfl
      rw [hsplit, String.toList_append, Nat.toList_repr]
      rfl
    refine ⟨'-', Nat.toDigits 10 (n + 1) ++ rest, by rw [hwritten]; rfl, List.mem_cons_self, ?_⟩
    exact read_unsigned_numeral h fun _ => Nat.succ_pos n

end Numbers

section Values

def joined (texts : List String) : List Char := (String.intercalate "," texts).toList

theorem joined_singleton (text : String) : joined [text] = text.toList := by
  rw [joined, String.intercalate_singleton]

theorem joined_cons_cons (text next : String) (texts : List String) :
    joined (text :: next :: texts) = text.toList ++ ',' :: joined (next :: texts) := by
  rw [joined, String.intercalate_cons_cons, String.toList_append, String.toList_append,
    List.append_assoc]
  rfl

/-- The front of a value, which is neither white space nor a closing bracket. -/
theorem compact_front {json : Json} (h : json.Plain) :
    ∃ c tail, json.compact.toList = c :: tail ∧ isSpace c = false ∧ c ≠ ']' := by
  cases json with
  | null => exact ⟨'n', _, rfl, rfl, by decide⟩
  | bool b =>
    cases b with
    | false => exact ⟨'f', _, rfl, rfl, by decide⟩
    | true => exact ⟨'t', _, rfl, rfl, by decide⟩
  | number n =>
    cases n with
    | whole n =>
      -- a sign or one of ten digits
      obtain ⟨c, tail, hwritten, hc, -⟩ := read_number_whole n .nothing
      rw [List.append_nil] at hwritten
      refine ⟨c, tail, hwritten, ?_⟩
      simp only [BeginsNumber, List.mem_cons, List.not_mem_nil, or_false] at hc
      rcases hc with rfl | rfl | rfl | rfl | rfl | rfl | rfl | rfl | rfl | rfl | rfl
      all_goals exact ⟨rfl, by decide⟩
    | _ => cases h
  | string t =>
    exact ⟨'"', _, by rw [compact, quoteText, quote, String.toList_ofList]; rfl, rfl, by decide⟩
  | array items =>
    exact ⟨'[', _, by rw [compact, String.toList_append, String.toList_append]; rfl, rfl, by decide⟩
  | object members =>
    exact ⟨'\x7b', _, by rw [compact, String.toList_append, String.toList_append]; rfl,
      rfl, by decide⟩

theorem skip_space_cons {c : Char} (h : isSpace c = false) (tail : Rest) :
    skipSpace (c :: tail) = c :: tail := by
  rw [skipSpace, List.dropWhile_cons, h]
  rfl

variable {fuel : Nat} {input inner after rest : Rest} {first value : Json} {key : JsonText}

theorem read_value_array {c : Char} (hspace : isSpace c = false) (hclose : c ≠ ']') (fuel : Nat)
    (tail : Rest) :
    readValue (fuel + 1) ('[' :: c :: tail) =
      (readItems fuel (c :: tail)).map fun read => (.array read.1, read.2) := by
  have hopen : skipSpace ('[' :: c :: tail) = '[' :: c :: tail := rfl
  simp only [readValue, hopen, skip_space_cons hspace]
  split
  · next hsame => exact absurd (List.cons.inj hsame).1 hclose
  · rfl

theorem read_items_comma (h : readValue fuel input = some (first, ',' :: rest)) :
    readItems (fuel + 1) input = (readItems fuel rest).map fun read =>
      (first :: read.1, read.2) := by
  have hnext : skipSpace (',' :: rest) = ',' :: rest := rfl
  simp only [readItems, h, Option.bind_eq_bind, Option.bind_some, hnext]
  cases readItems fuel rest with
  | none => rfl
  | some read => rfl

theorem read_items_last (h : readValue fuel input = some (first, ']' :: rest)) :
    readItems (fuel + 1) input = some ([first], rest) := by
  have hnext : skipSpace (']' :: rest) = ']' :: rest := rfl
  simp only [readItems, h, Option.bind_eq_bind, Option.bind_some, hnext]
  rfl

theorem read_members_comma (hkey : readText inner = some (key, ':' :: after))
    (h : readValue fuel after = some (value, ',' :: rest)) :
    readMembers (fuel + 1) ('"' :: inner) =
      (readMembers fuel rest).map fun read => ((key, value) :: read.1, read.2) := by
  have hfront : skipSpace ('"' :: inner) = '"' :: inner := rfl
  have hcolon : skipSpace (':' :: after) = ':' :: after := rfl
  have hnext : skipSpace (',' :: rest) = ',' :: rest := rfl
  simp only [readMembers, hfront, hkey, hcolon, h, Option.bind_eq_bind, Option.bind_some, hnext]
  cases readMembers fuel rest with
  | none => rfl
  | some read => rfl

theorem read_members_last (hkey : readText inner = some (key, ':' :: after))
    (h : readValue fuel after = some (value, '\x7d' :: rest)) :
    readMembers (fuel + 1) ('"' :: inner) = some ([(key, value)], rest) := by
  have hfront : skipSpace ('"' :: inner) = '"' :: inner := rfl
  have hcolon : skipSpace (':' :: after) = ':' :: after := rfl
  have hnext : skipSpace ('\x7d' :: rest) = '\x7d' :: rest := rfl
  simp only [readMembers, hfront, hkey, hcolon, h, Option.bind_eq_bind, Option.bind_some, hnext]
  rfl

theorem to_list_compact_array (items : List Json) :
    (Json.array items).compact.toList = '[' :: (joined (compactItems items) ++ [']']) := by
  rw [compact, String.toList_append, String.toList_append]
  rfl

theorem to_list_compact_object (members : List (JsonText × Json)) :
    (Json.object members).compact.toList =
      '\x7b' :: (joined (compactMembers members) ++ ['\x7d']) := by
  rw [compact, String.toList_append, String.toList_append]
  rfl

/-- A key is read up to the colon behind it. -/
theorem read_text_member (key : String) (value : Json) (rest : Rest) :
    ∃ inner, (quoteText (some key) ++ ":" ++ value.compact).toList ++ rest = '"' :: inner ∧
      readText inner = some (some key, ':' :: (value.compact.toList ++ rest)) := by
  obtain ⟨inner, hinner, hread⟩ := read_text_quote key (':' :: (value.compact.toList ++ rest))
  refine ⟨inner, ?_, hread⟩
  rw [← hinner, String.toList_append, String.toList_append, List.append_assoc, List.append_assoc]
  rfl

/-- Written items begin neither with a blank nor with the closing bracket. -/
theorem joined_items_front {item : Json} (h : item.Plain) (items : List Json) :
    ∃ c tail, joined (compactItems (item :: items)) = c :: tail ∧ isSpace c = false ∧ c ≠ ']' := by
  obtain ⟨c, tail, hfront, hspace, hclose⟩ := compact_front h
  cases items with
  | nil =>
    exact ⟨c, tail, by rw [compactItems, compactItems, joined_singleton, hfront], hspace, hclose⟩
  | cons next items =>
    refine ⟨c, tail ++ ',' :: joined (compactItems (next :: items)), ?_, hspace, hclose⟩
    rw [compactItems, compactItems, joined_cons_cons, hfront]
    rfl

theorem joined_members_front (key : String) (value : Json) (members : List (JsonText × Json)) :
    ∃ tail, joined (compactMembers ((some key, value) :: members)) = '"' :: tail := by
  obtain ⟨inner, hinner, -⟩ := read_text_member key value []
  rw [List.append_nil] at hinner
  cases members with
  | nil => exact ⟨inner, by rw [compactMembers, compactMembers, joined_singleton, hinner]⟩
  | cons next members =>
    refine ⟨inner ++ ',' :: joined (compactMembers (next :: members)), ?_⟩
    obtain ⟨k, v⟩ := next
    rw [compactMembers, compactMembers, joined_cons_cons, hinner]
    rfl

/-- What is read of written texts with a given fuel, if the texts are no longer than that. -/
structure ReadsWithin (fuel : Nat) : Prop where
  value : ∀ json : Json, json.Plain → json.compact.toList.length ≤ fuel → ∀ rest, Ends rest →
    readValue fuel (json.compact.toList ++ rest) = some (json, rest)
  items : ∀ items, items ≠ [] → PlainItems items → (joined (compactItems items)).length <
      fuel → ∀ rest,
    readItems fuel (joined (compactItems items) ++ ']' :: rest) = some (items, rest)
  members : ∀ members, members ≠ [] → PlainMembers members →
      (joined (compactMembers members)).length < fuel →
    ∀ rest, readMembers fuel (joined (compactMembers members) ++ '\x7d' :: rest) =
      some (members, rest)

/-- If shorter texts are read back, so is an array of them. -/
theorem ReadsWithin.array (ih : ReadsWithin fuel) {items : List Json} (h : PlainItems items)
    (hfuel : (Json.array items).compact.toList.length ≤ fuel + 1) (rest : Rest) :
    readValue (fuel + 1) ((Json.array items).compact.toList ++ rest) =
      some (.array items, rest) := by
  cases items with
  | nil => rfl
  | cons item items =>
    -- the front of the first item is no bracket, so the list is not taken for an empty one
    obtain ⟨c, tail, hfront, hspace, hclose⟩ := joined_items_front h.1 items
    rw [to_list_compact_array, List.length_cons, List.length_append, List.length_singleton] at hfuel
    have hitems := ih.items (item :: items) (List.cons_ne_nil _ _) h (by omega) rest
    rw [hfront] at hitems
    rw [to_list_compact_array, hfront, List.cons_append, List.append_assoc]
    exact (read_value_array hspace hclose fuel (tail ++ ([']'] ++ rest))).trans
      (congrArg (Option.map _) hitems)

/-- If shorter texts are read back, so is an object of them. -/
theorem ReadsWithin.object (ih : ReadsWithin fuel) {members : List (JsonText × Json)}
    (h : PlainMembers members)
    (hfuel : (Json.object members).compact.toList.length ≤ fuel + 1) (rest : Rest) :
    readValue (fuel + 1) ((Json.object members).compact.toList ++ rest) =
      some (.object members, rest) := by
  cases members with
  | nil => rfl
  | cons member members =>
    obtain ⟨key, value⟩ := member
    obtain ⟨key, rfl⟩ := Option.isSome_iff_exists.mp h.1
    obtain ⟨tail, hfront⟩ := joined_members_front key value members
    rw [to_list_compact_object, List.length_cons, List.length_append, List.length_singleton]
      at hfuel
    have hmembers :=
      ih.members ((some key, value) :: members) (List.cons_ne_nil _ _) h (by omega) rest
    rw [hfront] at hmembers
    rw [to_list_compact_object, hfront, List.cons_append, List.append_assoc]
    exact congrArg (Option.map _) hmembers

/-- One more step of fuel suffices for values that are longer by one. -/
theorem ReadsWithin.value_succ (ih : ReadsWithin fuel) (json : Json) (h : json.Plain)
    (hfuel : json.compact.toList.length ≤ fuel + 1) (rest : Rest) (hrest : Ends rest) :
    readValue (fuel + 1) (json.compact.toList ++ rest) = some (json, rest) := by
  cases json with
  | null => rfl
  | bool b =>
    cases b with
    | false => rfl
    | true => rfl
  | number n =>
    cases n with
    | whole n =>
      obtain ⟨c, tail, hwritten, hc, hread⟩ := read_number_whole n hrest
      have hsame : (Json.number (.whole n)).compact.toList ++ rest = c :: tail := hwritten
      rw [hsame, read_value_number hc, hread]
      rfl
    | _ => cases h
  | string t =>
    obtain ⟨s, rfl⟩ := Option.isSome_iff_exists.mp h
    obtain ⟨inner, hwritten, hread⟩ := read_text_quote s rest
    have hsame : (Json.string (some s)).compact.toList ++ rest = '"' :: inner := hwritten
    rw [hsame]
    exact congrArg (Option.map fun read => (Json.string read.1, read.2)) hread
  | array items => exact ih.array h hfuel rest
  | object members => exact ih.object h hfuel rest

theorem ReadsWithin.items_succ (ih : ReadsWithin fuel) (items : List Json) (hne : items ≠ [])
    (h : PlainItems items)
    (hfuel : (joined (compactItems items)).length < fuel + 1) (rest : Rest) :
    readItems (fuel + 1) (joined (compactItems items) ++ ']' :: rest) = some (items, rest) := by
  cases items with
  | nil => exact absurd rfl hne
  | cons item items =>
    cases items with
    | nil =>
      rw [compactItems, compactItems, joined_singleton] at hfuel ⊢
      exact read_items_last (ih.value item h.1 (by omega) _ (.bracket rest))
    | cons next items =>
      have hwritten : joined (compactItems (item :: next :: items)) =
          item.compact.toList ++ ',' :: joined (compactItems (next :: items)) := by
        rw [compactItems, compactItems, joined_cons_cons]
      rw [hwritten, List.length_append, List.length_cons] at hfuel
      have hfirst := ih.value item h.1 (by
          omega) _ (.comma (joined (compactItems (next :: items)) ++ ']' :: rest))
      have hothers := ih.items (next :: items) (List.cons_ne_nil _ _) h.2 (by omega) rest
      rw [hwritten, List.append_assoc, List.cons_append, read_items_comma hfirst, hothers]
      rfl

theorem ReadsWithin.members_succ (ih : ReadsWithin fuel) (members : List (JsonText × Json))
    (hne : members ≠ [])
    (h : PlainMembers members) (hfuel : (joined (compactMembers members)).length < fuel + 1)
    (rest : Rest) :
    readMembers (fuel + 1) (joined (compactMembers members) ++ '\x7d' :: rest) =
      some (members, rest) := by
  cases members with
  | nil => exact absurd rfl hne
  | cons member members =>
    obtain ⟨key, value⟩ := member
    obtain ⟨key, rfl⟩ := Option.isSome_iff_exists.mp h.1
    cases members with
    | nil =>
      obtain ⟨inner, hinner, hkey⟩ := read_text_member key value ('\x7d' :: rest)
      rw [compactMembers, compactMembers, joined_singleton] at hfuel ⊢
      simp only [String.toList_append, List.length_append] at hfuel
      rw [hinner]
      exact read_members_last hkey (ih.value value h.2.1 (by omega) _ (.brace rest))
    | cons next members =>
      -- the first member, a comma, and the others as they are written without it
      have hwritten : joined (compactMembers ((some key, value) :: next :: members)) =
          (quoteText (some key) ++ ":" ++ value.compact).toList ++
            ',' :: joined (compactMembers (next :: members)) := by
        obtain ⟨k, v⟩ := next
        rw [compactMembers, compactMembers, joined_cons_cons]
      obtain ⟨inner, hinner, hkey⟩ := read_text_member key value
        (',' :: (joined (compactMembers (next :: members)) ++ '\x7d' :: rest))
      rw [hwritten] at hfuel ⊢
      simp only [String.toList_append, List.length_append, List.length_cons] at hfuel
      have hvalue := ih.value value h.2.1 (by omega) _
        (.comma (joined (compactMembers (next :: members)) ++ '\x7d' :: rest))
      have hothers := ih.members (next :: members) (List.cons_ne_nil _ _) h.2.2 (by omega) rest
      rw [List.append_assoc, List.cons_append, hinner, read_members_comma hkey hvalue, hothers]
      rfl

/-- Fuel for every character is fuel enough. -/
theorem reads_within (fuel : Nat) : ReadsWithin fuel := by
  -- all three readers at once, by induction on the fuel: every part of a value is shorter than the
  -- whole, so what is left of the fuel is enough for it
  induction fuel with
  | zero =>
    refine { value := ?_, items := ?_, members := ?_ }
    · intro json h hfuel
      obtain ⟨c, tail, hfront, -⟩ := compact_front h
      rw [hfront] at hfuel
      cases hfuel
    · intro items _ _ hfuel
      omega
    · intro members _ _ hfuel
      omega
  | succ fuel ih => exact ⟨ih.value_succ, ih.items_succ, ih.members_succ⟩

end Values

/-- What is compactly written reads as what was written. -/
theorem parse_compact {json : Json} (h : json.Plain) : parse? json.compact = some json := by
  have hread :=
    (reads_within (2 * json.compact.toList.length + 2)).value json h (by omega) [] .nothing
  rw [List.append_nil] at hread
  rw [parse?, hread]
  rfl

end ChainLens.Json
