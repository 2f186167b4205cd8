/-
White space, by the property `White_Space` of Unicode, and its removal at
the ends of a text. The zero-width space and the byte order mark are not
white space.
-/
import QuerySnippet.Text.Ranges

namespace QuerySnippet.Text

/-- The code points of white space, in increasing order. -/
def blankRanges : List (Nat × Nat) :=
  [(0x09, 0x0D), (0x20, 0x20), (0x85, 0x85), (0xA0, 0xA0), (0x1680, 0x1680),
    (0x2000, 0x200A), (0x2028, 0x2029), (0x202F, 0x202F), (0x205F, 0x205F), (0x3000, 0x3000)]

/-- A white space character. -/
def isBlank (c : Char) : Bool := inRanges blankRanges c.toNat

/-- The characters without white space at either end. -/
def trimBlank (cs : List Char) : List Char :=
  ((cs.dropWhile isBlank).reverse.dropWhile isBlank).reverse

/-- A text without white space at either end. -/
def trimmed (s : String) : String := String.ofList (trimBlank s.toList)

end QuerySnippet.Text
