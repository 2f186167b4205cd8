/-
Quoted texts of TOML, after their opening quotes.

A basic text has escapes, a literal text has none. Either may span lines
when it stands between three quotes; then its line ends are kept as they are
written, and one or two quotes may stand in front of the closing ones. A
backslash at the end of a line of a basic text takes the line end and all
blanks after it away.
-/
import QuerySnippet.Text.Digit

namespace QuerySnippet.Toml

/-- A character that a quoted text or a comment may hold as it is. -/
def isPlain (c : Char) : Bool := c == '\t' || (0x20 ≤ c.toNat && c.toNat != 0x7F)

/-- The character that a letter stands for after a backslash. -/
def escaped? : Char → Option Char
  | '"' => some '"'
  | '\\' => some '\\'
  | 'b' => some '\x08'
  | 'e' => some '\x1b'
  | 'f' => some '\x0c'
  | 'n' => some '\n'
  | 'r' => some '\r'
  | 't' => some '\t'
  | _ => none

/-- The character with a code point in hexadecimal digits. -/
def coded? (digits : List Char) : Option Char := do
  let n ← Text.ofDigits? 16 digits
  if n.isValidChar then some (Char.ofNat n) else none

/-- The text ends its line after blanks. -/
def endsLine (cs : List Char) : Bool :=
  match cs.dropWhile fun c => c == ' ' || c == '\t' with
  | '\n' :: _ => true
  | '\r' :: '\n' :: _ => true
  | _ => false

/-- A text that has been read, last character first, and what stands behind its three closing
quotes: up to two more of them belong to it. -/
def closeLines (quote : Char) (read rest : List Char) : List Char × List Char :=
  match rest with
  | a :: b :: rest =>
    if a = quote ∧ b = quote then ((quote :: quote :: read).reverse, rest)
    else if a = quote then ((quote :: read).reverse, b :: rest)
    else (read.reverse, a :: b :: rest)
  | [a] => if a = quote then ((quote :: read).reverse, []) else (read.reverse, [a])
  | [] => (read.reverse, [])

/-- Reads a basic text, of several lines or of one. What has been read is kept last first;
`trim` says that blanks are taken away. -/
def basic (lines : Bool) : (trim : Bool) → (read : List Char) → List Char →
    Option (List Char × List Char)
  | _, _, [] => none
  | true, read, '\r' :: '\n' :: cs => basic lines true read cs
  | true, read, '\n' :: cs => basic lines true read cs
  | true, read, ' ' :: cs => basic lines true read cs
  | true, read, '\t' :: cs => basic lines true read cs
  | _, read, '"' :: cs =>
    if lines then
      if ['"', '"'].isPrefixOf cs then some (closeLines '"' read (cs.drop 2))
      else basic lines false ('"' :: read) cs
    else some (read.reverse, cs)
  | _, read, '\\' :: 'x' :: a :: b :: cs => do
    basic lines false ((← coded? [a, b]) :: read) cs
  | _, read, '\\' :: 'u' :: a :: b :: c :: d :: cs => do
    basic lines false ((← coded? [a, b, c, d]) :: read) cs
  | _, read, '\\' :: 'U' :: a :: b :: c :: d :: e :: f :: g :: h :: cs => do
    basic lines false ((← coded? [a, b, c, d, e, f, g, h]) :: read) cs
  | _, read, '\\' :: c :: cs =>
    if lines ∧ endsLine (c :: cs) then basic lines true read (c :: cs)
    else do basic lines false ((← escaped? c) :: read) cs
  | _, read, '\r' :: '\n' :: cs =>
    if lines then basic lines false ('\n' :: '\r' :: read) cs else none
  | _, read, c :: cs =>
    if isPlain c ∨ (lines ∧ c = '\n') then basic lines false (c :: read) cs else none

/-- Reads a literal text, of several lines or of one. -/
def literal (lines : Bool) (read : List Char) : List Char → Option (List Char × List Char)
  | [] => none
  | '\'' :: cs =>
    if lines then
      if ['\'', '\''].isPrefixOf cs then some (closeLines '\'' read (cs.drop 2))
      else literal lines ('\'' :: read) cs
    else some (read.reverse, cs)
  | '\r' :: '\n' :: cs => if lines then literal lines ('\n' :: '\r' :: read) cs else none
  | c :: cs => if isPlain c ∨ (lines ∧ c = '\n') then literal lines (c :: read) cs else none

/-- What follows three opening quotes, without a line end right behind them. -/
def firstLine : List Char → List Char
  | '\n' :: cs => cs
  | '\r' :: '\n' :: cs => cs
  | cs => cs

/-- Reads a quoted text of one line, with its opening quote. -/
def quotedLine? : List Char → Option (List Char × List Char)
  | '"' :: cs => basic false false [] cs
  | '\'' :: cs => literal false [] cs
  | _ => none

/-- Reads any quoted text, with its opening quotes. -/
def quoted? : List Char → Option (List Char × List Char)
  | '"' :: '"' :: '"' :: cs => basic true false [] (firstLine cs)
  | '\'' :: '\'' :: '\'' :: cs => literal true [] (firstLine cs)
  | cs => quotedLine? cs

end QuerySnippet.Toml
