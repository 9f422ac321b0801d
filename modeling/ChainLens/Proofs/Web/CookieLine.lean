import ChainLens.Proofs.Text.Trimmed
import ChainLens.Proofs.Text.Utf8Form
import ChainLens.Web.Rpc

/-!
Credentials in a file. They are on its first line, which ends before a line feed or a carriage
return with a line feed, or with the file: blanks around the line aside, it is a user without a
colon, a colon and a password.
-/

namespace ChainLens.Web

/-- The first line of a text, without its end. -/
inductive LeadingLine : List Char → List Char → Prop
  | whole {line : List Char} (h : '\n' ∉ line) : LeadingLine line line
  | fed {line : List Char} (h : '\n' ∉ line) (hlast : line.getLast? ≠ some '\r')
      (more : List Char) :
    LeadingLine line (line ++ '\n' :: more)
  | returned {line : List Char} (h : '\n' ∉ line) (more : List Char) :
    LeadingLine line (line ++ '\r' :: '\n' :: more)

/-- The text is a user and a password with a colon between them, which is the first one. -/
structure Credentials.Parts (text : List Char) (user password : List Char) : Prop where
  text_eq : text = user ++ ':' :: password
  plain : ':' ∉ user
  user_ne : user ≠ []
  password_ne : password ≠ []

def basicHeader (text : List Char) : String :=
  "Basic " ++ Base64.encode (Utf8.encode (String.ofList text))

variable {c : Char} {line before after text content : List Char}

theorem ne_of_mem_of_not_mem (h : c ∉ before) : ∀ d ∈ before, (d != c) = true := by
  intro d hd
  rw [bne_iff_ne]
  rintro rfl
  exact h hd

theorem take_while_ne_append (h : c ∉ before) (after : List Char) :
    (before ++ c :: after).takeWhile (· != c) = before := by
  rw [List.takeWhile_append_of_pos (ne_of_mem_of_not_mem h), List.takeWhile_cons_of_neg (by simp),
    List.append_nil]

theorem drop_while_ne_append (h : c ∉ before) (after : List Char) :
    (before ++ c :: after).dropWhile (· != c) = c :: after := by
  rw [List.dropWhile_append_of_pos (ne_of_mem_of_not_mem h), List.dropWhile_cons_of_neg (by simp)]

namespace LeadingLine

theorem exists_line (content : List Char) : ∃ line, LeadingLine line content := by
  by_cases hfeed : '\n' ∈ content
  · obtain ⟨line, more, rfl, hplain⟩ := List.eq_append_cons_of_mem hfeed
    by_cases hlast : line.getLast? = some '\r'
    · -- a carriage return before the line feed belongs to the end of the line
      obtain ⟨front, rfl⟩ := List.getLast?_eq_some_iff.mp hlast
      have hfront : '\n' ∉ front := fun hmem => hplain (List.mem_append_left _ hmem)
      refine ⟨front, ?_⟩
      rw [List.append_assoc]
      exact .returned hfront more
    · exact ⟨line, .fed hplain hlast more⟩
  · exact ⟨content, .whole hfeed⟩

/-- What is taken for the first line differs from it by blanks at most. -/
theorem trim_first_line (h : LeadingLine line content) :
    Text.trimChars (Credentials.firstLine content) = Text.trimChars line := by
  cases h with
  | whole h => rw [Credentials.firstLine, List.takeWhile_eq_self_iff.mpr (ne_of_mem_of_not_mem h)]
  | fed h _ more => rw [Credentials.firstLine, take_while_ne_append h]
  | returned h more =>
    have hplain : '\n' ∉ line ++ ['\r'] := by simpa using h
    have hcontent : line ++ '\r' :: '\n' :: more = line ++ ['\r'] ++ '\n' :: more := by simp
    rw [Credentials.firstLine, hcontent, take_while_ne_append hplain]
    exact Text.trim_chars_append line (List.forall_mem_singleton.mpr rfl)

/-- A line that does not end in a blank, and what may come after it. -/
theorem of_append (h : '\n' ∉ line) (hlast : ∀ c ∈ line.getLast?, Text.isBlank c = false)
    {rest : List Char}
    (hrest : rest = [] ∨ ∃ more, rest = '\n' :: more ∨ rest = '\r' :: '\n' :: more) :
    LeadingLine line (line ++ rest) := by
  rcases hrest with rfl | ⟨more, rfl | rfl⟩
  · rw [List.append_nil]
    exact .whole h
  · refine .fed h ?_ more
    intro hreturn
    exact absurd (hlast _ hreturn) (by decide)
  · exact .returned h more

end LeadingLine

namespace Credentials

/-- Credentials are the parts of a line around its first colon. -/
theorem of_line_eq_some_iff {credentials : Credentials} :
    ofLine? text = some credentials ↔
    Parts text credentials.user.toList credentials.password.toList := by
  constructor
  · intro h
    by_cases hcolon : ':' ∈ text
    · obtain ⟨user, password, rfl, hplain⟩ := List.eq_append_cons_of_mem hcolon
      simp only [ofLine?, take_while_ne_append hplain, drop_while_ne_append hplain] at h
      split_ifs at h with hempty
      obtain rfl := Option.some.inj h
      rw [Bool.or_eq_true, List.isEmpty_iff, List.isEmpty_iff, not_or] at hempty
      simp only [String.toList_ofList]
      exact ⟨rfl, hplain, hempty.1, hempty.2⟩
    · have hdrop : text.dropWhile (· != ':') = [] :=
        List.dropWhile_eq_nil_iff.mpr (ne_of_mem_of_not_mem hcolon)
      simp only [ofLine?, hdrop, reduceCtorEq] at h
  · rintro ⟨rfl, hplain, huser, hpassword⟩
    have hfilled : (credentials.user.toList.isEmpty || credentials.password.toList.isEmpty) =
        false := by
      rw [Bool.or_eq_false_iff, List.isEmpty_eq_false_iff, List.isEmpty_eq_false_iff]
      exact ⟨huser, hpassword⟩
    simp only [ofLine?, take_while_ne_append hplain, drop_while_ne_append hplain, hfilled,
      Bool.false_eq_true, if_false, String.ofList_toList]

variable {path : String} {credentials : Credentials}

/-- A file yields the credentials in its content. -/
theorem of_file_eq_ok_iff {content : String} :
    ofFile path (some (Utf8.encode content)) = .ok credentials ↔
    ofContent? content = some credentials := by
  simp only [ofFile, Utf8.decode_encode]
  cases ofContent? content with
  | none => simp
  | some found => simp

theorem of_file_eq_error {content : String} (h : ofContent? content = none) :
    ofFile path (some (Utf8.encode content)) = .error (.badCookie path) := by
  simp only [ofFile, Utf8.decode_encode, h]

/-- The first line of a content holds the credentials, blanks around it aside. -/
theorem of_content_eq_some_iff {content : String} (h : LeadingLine line content.toList) :
    ofContent? content = some credentials ↔
      Parts (Text.trimChars line) credentials.user.toList credentials.password.toList := by
  rw [ofContent?, h.trim_first_line, of_line_eq_some_iff]

theorem Parts.get_last_eq {user password : List Char} (h : Parts text user password) :
    text.getLast? = password.getLast? := by
  rw [h.text_eq, List.getLast?_append_cons]
  cases password with
  | nil => exact absurd rfl h.password_ne
  | cons c later => rw [List.getLast?_cons_cons]

/-- A line is its own trimmed form if its user does not begin with a blank and its password does not
end in one. -/
theorem Parts.trimmed {user password : List Char} (h : Parts text user password)
    (hfirst : ∀ c ∈ user.head?, Text.isBlank c = false)
    (hlast : ∀ c ∈ password.getLast?, Text.isBlank c = false) :
    Text.Trimmed text := by
  have hhead : text.head? = user.head? := by
    rw [h.text_eq, List.head?_append_of_ne_nil user h.user_ne]
  exact ⟨hhead ▸ hfirst, h.get_last_eq ▸ hlast⟩

/-- The header spells the line that the credentials are on. -/
theorem Parts.header_eq (h : Parts text credentials.user.toList credentials.password.toList) :
    credentials.header = basicHeader text := by
  have htext : credentials.user ++ ":" ++ credentials.password = String.ofList text := by
    apply String.toList_injective
    rw [String.toList_ofList, h.text_eq]
    simp
  rw [header, htext, basicHeader]

end Credentials

end ChainLens.Web
