/-
Quoted texts, as they stand in messages and listings.

A quoted text stands between double quotes. The quote and the backslash are
written after a backslash; NUL, tab, line feed and carriage return have short
forms; other characters that `isPrintable` leaves out are written as their
code point in hexadecimal between braces. The single quote is not escaped.
-/
import QuerySnippet.Text.Printable

namespace QuerySnippet.Text

/-- One character inside a quoted text. -/
def quoteChar (c : Char) : List Char :=
  if c = '\x00' then ['\\', '0']
  else if c = '\t' then ['\\', 't']
  else if c = '\n' then ['\\', 'n']
  else if c = '\r' then ['\\', 'r']
  else if c = '"' ∨ c = '\\' then ['\\', c]
  else if isPrintable c then [c]
  else ['\\', 'u', '\x7b'] ++ Nat.toDigits 16 c.toNat ++ ['\x7d']

/-- A text between double quotes. -/
def quoted (s : String) : String :=
  String.ofList ('"' :: s.toList.flatMap quoteChar ++ ['"'])

/-- A list of texts between square brackets, each of them quoted. -/
def quotedList (items : List String) : String :=
  "[" ++ ", ".intercalate (items.map quoted) ++ "]"

end QuerySnippet.Text
