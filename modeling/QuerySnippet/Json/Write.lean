/-
How documents are written in JSON: without blanks, members in their order.

In a text the quote, the backslash and the characters below U+0020 are
escaped, those by a letter where there is one, and every other character
stands for itself.
-/
import QuerySnippet.Document.Basic

namespace QuerySnippet.Json

/-- Numbers are written in full between 0.00001 and 10 ^ 16, whole ones with `.0`. -/
def numberStyle : Number.Style where
  inFull power := -5 ≤ power && power ≤ 15
  wholePoint := true
  tie := .even

/-- One character inside a text. -/
def writeChar (c : Char) : List Char :=
  if c = '"' ∨ c = '\\' then ['\\', c]
  else if c = '\x08' then ['\\', 'b']
  else if c = '\x0c' then ['\\', 'f']
  else if c = '\n' then ['\\', 'n']
  else if c = '\r' then ['\\', 'r']
  else if c = '\t' then ['\\', 't']
  else if c.toNat < 0x20 then
    ['\\', 'u', '0', '0', Nat.digitChar (c.toNat / 16), Nat.digitChar (c.toNat % 16)]
  else [c]

/-- A text between quotes. -/
def writeText (s : String) : List Char := '"' :: s.toList.flatMap writeChar ++ ['"']

mutual

/-- The characters of a document. Half a surrogate pair stands for an unreadable part. -/
def spell : Document → List Char
  | .null => "null".toList
  | .boolean value => if value then "true".toList else "false".toList
  | .integer value => (toString value).toList
  | .floating value => (value.text numberStyle).toList
  | .text value => writeText value
  | .unreadable _ => "\"\\ud800\"".toList
  | .array items => '[' :: spellItems items ++ [']']
  | .object members => '\x7b' :: spellMembers members ++ ['\x7d']

/-- Items, separated by commas. -/
def spellItems : List Document → List Char
  | [] => []
  | [item] => spell item
  | item :: items => spell item ++ ',' :: spellItems items

/-- Members, separated by commas. -/
def spellMembers : List (String × Document) → List Char
  | [] => []
  | [(name, value)] => writeText name ++ ':' :: spell value
  | (name, value) :: members => writeText name ++ ':' :: spell value ++ ',' :: spellMembers members

end

/-- The text of a document. -/
def write (d : Document) : String := String.ofList (spell d)

end QuerySnippet.Json
