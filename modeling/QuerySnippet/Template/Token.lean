/-
The tokens of a template's text.

A template is plain text with placeholders. `{3}` stands for argument 3,
`%s` and `%d` for the next argument in order, and `{{`, `}}` and `%%` for
the characters themselves. A `%` before any other character is plain text;
a brace that belongs to none of these forms is a fault.

`Token.read` takes a text apart, from left to right, and reports the first
place where no token can be read. `Token.spelling` writes a token down.
-/

namespace QuerySnippet.Template

/-- Why a text has no tokens from some place on. -/
inductive Fault where
  /-- A character that is neither a digit nor `}` after an open `{`. -/
  | unexpected (c : Char)
  /-- The text ends after an open `{`. -/
  | unclosed
  /-- No digit stands between `{` and `}`. -/
  | empty
  /-- A `}` that closes nothing. -/
  | unmatched
  /-- The index between the braces does not fit in 64 bits. -/
  | tooLarge
deriving DecidableEq, Repr

/-- The two spellings of "the next argument". They mean the same. -/
inductive Conversion where
  | text
  | decimal
deriving DecidableEq, Repr

/-- The letter after the percent sign. -/
def Conversion.letter : Conversion → Char
  | .text => 's'
  | .decimal => 'd'

/-- One token of a template's text. -/
inductive Token where
  /-- A character other than a brace or a percent sign, standing for itself. -/
  | plain (c : Char)
  /-- `{{`. -/
  | openBrace
  /-- `}}`. -/
  | closeBrace
  /-- `%%`. -/
  | percent
  /-- A percent sign that no `%`, `s` or `d` follows. -/
  | barePercent
  /-- Digits between braces: the argument with that index. -/
  | indexed (digits : List Char)
  /-- `%s` or `%d`: the next argument in order. -/
  | next (conversion : Conversion)
deriving DecidableEq, Repr

/-- The number that decimal digits denote, leading zeros ignored. -/
def index (digits : List Char) : Nat := Nat.ofDigitChars 10 digits 0

/-- Indices are 64-bit words. -/
def indexLimit : Nat := UInt64.size

namespace Token

/-- How a token is written. -/
def spelling : Token → List Char
  | plain c => [c]
  | openBrace => ['{', '{']
  | closeBrace => ['}', '}']
  | percent => ['%', '%']
  | barePercent => ['%']
  | indexed digits => '{' :: digits ++ ['}']
  | next k => ['%', k.letter]

/-- The placeholder whose digits, last first, stand between the braces. -/
def ofDigits (reversed : List Char) : Except Fault Token :=
  let digits := reversed.reverse
  if digits.isEmpty then .error .empty
  else if index digits < indexLimit then .ok (indexed digits)
  else .error .tooLarge

mutual

/-- The tokens of a text, or the leftmost fault. -/
def read : List Char → Except Fault (List Token)
  | [] => .ok []
  | '{' :: '{' :: rest => (openBrace :: ·) <$> read rest
  | '{' :: rest => readIndex [] rest
  | '}' :: '}' :: rest => (closeBrace :: ·) <$> read rest
  | '}' :: _ => .error .unmatched
  | '%' :: '%' :: rest => (percent :: ·) <$> read rest
  | '%' :: 's' :: rest => (next .text :: ·) <$> read rest
  | '%' :: 'd' :: rest => (next .decimal :: ·) <$> read rest
  | '%' :: rest => (barePercent :: ·) <$> read rest
  | c :: rest => (plain c :: ·) <$> read rest

/-- The tokens of a text that begins inside a placeholder, after the digits `reversed`. -/
def readIndex (reversed : List Char) : List Char → Except Fault (List Token)
  | [] => .error .unclosed
  | '}' :: rest => do
    let token ← ofDigits reversed
    (token :: ·) <$> read rest
  | c :: rest => if c.isDigit then readIndex (c :: reversed) rest else .error (.unexpected c)

end

end Token

end QuerySnippet.Template
