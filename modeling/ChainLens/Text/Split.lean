/-!
Taking lists of characters apart.
-/

namespace ChainLens.Text

/-- The pieces of a list between separators; there is always at least one. -/
def splitOn (sep : Char) : List Char → List (List Char)
  | [] => [[]]
  | c :: rest =>
    if c = sep then [] :: splitOn sep rest
    else match splitOn sep rest with
      | piece :: others => (c :: piece) :: others
      | [] => [[c]]

/-- What stands before the first character that satisfies `p`, and the rest from it on. -/
def cut (p : Char → Bool) (text : List Char) : List Char × List Char :=
  (text.takeWhile fun c => !p c, text.dropWhile fun c => !p c)

def splitLast? (c : Char) (text : List Char) : Option (List Char × List Char) :=
  let tail := text.reverse.takeWhile (· != c)
  if tail.length < text.length then
    some (text.take (text.length - tail.length - 1), tail.reverse)
  else none

/-- The words of a text that consists of visible characters and of spaces and line breaks between
them. -/
def words (text : String) : List (List Char) :=
  let finish (done : List (List Char)) (word : List Char) :=
    if word.isEmpty then done else word.reverse :: done
  let (done, word) := text.toList.foldl (fun (done, word) c =>
    if c.isWhitespace then (finish done word, []) else (done, c :: word)) ([], [])
  (finish done word).reverse

end ChainLens.Text
