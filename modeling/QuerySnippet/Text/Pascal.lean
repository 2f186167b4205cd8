/-
Pascal case: the words of a text, each with a capital first letter, without
anything between them.

Characters other than letters and numbers separate words. Inside a run of
letters and numbers a word ends before a capital that follows a lower case
letter, and before the last of several capitals when a lower case letter
follows it (`XMLParser` is `XML`, `Parser`). Digits and letters without case
join whichever word they stand in.
-/
import QuerySnippet.Text.Letter
import QuerySnippet.Text.Case

namespace QuerySnippet.Text

/-- What the characters of the current word, up to now, say about its case. -/
inductive WordCase where
  /-- No cased letter since the word began. -/
  | fresh
  /-- The last cased letter was lower case. -/
  | lower
  /-- The last cased letter was upper case. -/
  | upper
deriving DecidableEq, Repr

/-- The case of a word after one more character. -/
def WordCase.push (before : WordCase) (c : Char) : WordCase :=
  if isLowercase c then .lower else if isUppercase c then .upper else before

/-- Splits a run of letters and numbers into words. `word` holds the characters of the
current word, last first, and `mode` their case. -/
def splitCase (word : List Char) (mode : WordCase) : List Char → List (List Char)
  | [] => if word.isEmpty then [] else [word.reverse]
  | [c] => [(c :: word).reverse]
  | c :: next :: rest =>
    if mode.push c = .lower ∧ isUppercase next then
      (c :: word).reverse :: splitCase [] .fresh (next :: rest)
    else if mode = .upper ∧ isUppercase c ∧ isLowercase next then
      word.reverse :: splitCase [c] .fresh (next :: rest)
    else splitCase (c :: word) (mode.push c) (next :: rest)

/-- Splits a text at the characters that are neither letters nor numbers. -/
def runs : List Char → List (List Char)
  | [] => [[]]
  | c :: rest =>
    if isAlphanumeric c then
      match runs rest with
      | [] => [[c]]
      | run :: others => (c :: run) :: others
    else [] :: runs rest

/-- The words of a text. -/
def words (s : List Char) : List (List Char) := (runs s).flatMap (splitCase [] .fresh)

/-- Lower case for the characters of a word after its first. A capital sigma that ends the word
becomes a final sigma. -/
def lowerTail : List Char → List Char
  | [] => []
  | [c] => if c = 'Σ' then ['ς'] else lower c
  | c :: rest => lower c ++ lowerTail rest

/-- A word with its first character in upper case and the others in lower case. -/
def capitalize : List Char → List Char
  | [] => []
  | c :: rest => upper c ++ lowerTail rest

/-- A text in Pascal case. -/
def pascalCase (s : List Char) : List Char := (words s).flatMap capitalize

end QuerySnippet.Text
