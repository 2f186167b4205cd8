/-
The tokens of JSON.

`tokens` takes a text apart with one pass over its characters: a `Scanner`
holds the tokens found and the token it stands in. Words (literals and
numbers) are the longest runs of the characters they are made of, so two of
them never touch.
-/
import QuerySnippet.Json.Numeral

namespace QuerySnippet.Json

/-- A token. -/
inductive Token where
  | openObject
  | closeObject
  | openArray
  | closeArray
  | comma
  | colon
  /-- A text, or nothing when it holds one half of a surrogate pair. -/
  | text (content : Option String)
  /-- A literal name or a number. -/
  | word (value : Document)

/-- One written character of a text. -/
inductive Piece where
  | char (c : Char)
  /-- One half of a surrogate pair, by its escape. -/
  | surrogate (unit : Nat)
deriving DecidableEq, Repr

/-- The piece that a four-digit escape stands for. -/
def Piece.ofUnit (unit : Nat) : Piece :=
  if 0xD800 ≤ unit ∧ unit < 0xE000 then surrogate unit else char (Char.ofNat unit)

/-- The characters of a text, each pair of surrogates as one. -/
def Piece.join : List Piece → Option (List Char)
  | [] => some []
  | char c :: pieces => (c :: ·) <$> join pieces
  | surrogate first :: surrogate second :: pieces =>
    if first < 0xDC00 ∧ 0xDC00 ≤ second then
      (Char.ofNat (0x10000 + (first - 0xD800) * 0x400 + (second - 0xDC00)) :: ·) <$> join pieces
    else none
  | surrogate _ :: _ => none

/-- The content of a text token. -/
def Piece.content (pieces : List Piece) : Option String := (join pieces).map String.ofList

/-- What the scanner stands in. What it has read of that is kept last first. -/
inductive Mode where
  | between
  | word (read : List Char)
  | text (read : List Piece)
  /-- A text, after a backslash. -/
  | escape (read : List Piece)
  /-- A text, after `count` digits of a four-digit escape. -/
  | unit (read : List Piece) (count value : Nat)

/-- The state of the scan: the tokens found, last first, and what the scanner stands in. -/
structure Scanner where
  mode : Mode
  found : List Token

/-- Blanks between tokens. -/
def isBlank (c : Char) : Bool := c == ' ' || c == '\t' || c == '\n' || c == '\r'

/-- The characters of words. -/
def isWordChar (c : Char) : Bool := c.isAlphanum || c == '+' || c == '-' || c == '.'

/-- The tokens of one character. -/
def punctuation? : Char → Option Token
  | '\x7b' => some .openObject
  | '\x7d' => some .closeObject
  | '[' => some .openArray
  | ']' => some .closeArray
  | ',' => some .comma
  | ':' => some .colon
  | _ => none

/-- What a word denotes. -/
def word? (cs : List Char) : Option Document :=
  if cs = "null".toList then some .null
  else if cs = "true".toList then some (.boolean true)
  else if cs = "false".toList then some (.boolean false)
  else (Numeral.read cs).map Numeral.value

/-- The character that stands for another after a backslash. -/
def escaped? : Char → Option Char
  | '"' => some '"'
  | '\\' => some '\\'
  | '/' => some '/'
  | 'b' => some '\x08'
  | 'f' => some '\x0c'
  | 'n' => some '\n'
  | 'r' => some '\r'
  | 't' => some '\t'
  | _ => none

namespace Scanner

/-- The scanner before a text. -/
def start : Scanner := ⟨.between, []⟩

/-- Reads a character that stands outside words and texts. -/
def begin (found : List Token) (c : Char) : Option Scanner :=
  if isBlank c then some ⟨.between, found⟩
  else if c = '"' then some ⟨.text [], found⟩
  else if isWordChar c then some ⟨.word [c], found⟩
  else (punctuation? c).map fun token => ⟨.between, token :: found⟩

/-- Reads one character. -/
def step : Scanner → Char → Option Scanner
  | ⟨.between, found⟩, c => begin found c
  | ⟨.word read, found⟩, c =>
    if isWordChar c then some ⟨.word (c :: read), found⟩
    else do
      let value ← word? read.reverse
      begin (.word value :: found) c
  | ⟨.text read, found⟩, c =>
    if c = '"' then some ⟨.between, .text (Piece.content read.reverse) :: found⟩
    else if c = '\\' then some ⟨.escape read, found⟩
    else if c.toNat < 0x20 then none
    else some ⟨.text (.char c :: read), found⟩
  | ⟨.escape read, found⟩, c =>
    if c = 'u' then some ⟨.unit read 0 0, found⟩
    else (escaped? c).map fun plain => ⟨.text (.char plain :: read), found⟩
  | ⟨.unit read count value, found⟩, c => do
    let value := 16 * value + (← Text.hexDigit? c)
    if count = 3 then some ⟨.text (.ofUnit value :: read), found⟩
    else some ⟨.unit read (count + 1) value, found⟩

/-- The tokens found, when the text ends here. -/
def finish : Scanner → Option (List Token)
  | ⟨.between, found⟩ => some found.reverse
  | ⟨.word read, found⟩ => (word? read.reverse).map fun value => (.word value :: found).reverse
  | _ => none

end Scanner

/-- The tokens of a text. -/
def tokens (cs : List Char) : Option (List Token) :=
  (cs.foldlM Scanner.step .start).bind Scanner.finish

end QuerySnippet.Json
