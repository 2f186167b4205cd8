/-
The value that a TOML text spells.

Readers take what they read from the front of a text. Loops over items,
members and lines are bounded by the characters that are left, the nesting of
arrays and inline tables by `nestLimit`.
-/
import QuerySnippet.Toml.Quoted
import QuerySnippet.Toml.Scalar
import QuerySnippet.Toml.Table

namespace QuerySnippet.Toml

/-- Reads from the front of a text, or fails. -/
abbrev Reader := StateT (List Char) Option

namespace Reader

/-- Takes a given text off. -/
def token (expected : String) : Reader Unit := fun cs =>
  if expected.toList.isPrefixOf cs then some ((), cs.drop expected.length) else none

/-- Looks whether a given text stands first, and takes it off if so. -/
def tryToken (expected : String) : Reader Bool := fun cs =>
  if expected.toList.isPrefixOf cs then some (true, cs.drop expected.length) else some (false, cs)

/-- Takes the longest run of certain characters off. -/
def run (p : Char → Bool) : Reader (List Char) := fun cs => some (cs.span p)

/-- Spaces and tabs. -/
def blanks : Reader Unit := do
  let _ ← run fun c => c == ' ' || c == '\t'

/-- A comment, if one stands first. -/
def comment : Reader Unit := fun cs =>
  match cs with
  | '#' :: cs => some ((), cs.dropWhile isPlain)
  | cs => some ((), cs)

/-- The end of a line or of the text, with blanks and a comment in front. -/
def lineEnd : Reader Unit := do
  blanks
  comment
  fun
    | [] => some ((), [])
    | '\n' :: cs => some ((), cs)
    | '\r' :: '\n' :: cs => some ((), cs)
    | _ => none

/-- Takes blanks, line ends and comments off. `inside` says that a comment has begun. -/
def skipGap : (inside : Bool) → List Char → List Char
  | _, '\n' :: cs => skipGap false cs
  | _, '\r' :: '\n' :: cs => skipGap false cs
  | false, ' ' :: cs => skipGap false cs
  | false, '\t' :: cs => skipGap false cs
  | false, '#' :: cs => skipGap true cs
  | true, c :: cs => if isPlain c then skipGap true cs else c :: cs
  | _, cs => cs

/-- Blanks, line ends and comments. -/
def gap : Reader Unit := fun cs => some ((), skipGap false cs)

/-- The characters of bare keys. -/
def isKeyChar (c : Char) : Bool := c.isAlphanum || c == '-' || c == '_'

/-- One name of a key. -/
def name : Reader String := fun cs =>
  match cs with
  | '"' :: _ | '\'' :: _ => (quotedLine? cs).map fun (read, rest) => (String.ofList read, rest)
  | cs =>
    match cs.span isKeyChar with
    | ([], _) => none
    | (read, rest) => some (String.ofList read, rest)

/-- The names of a dotted key after its first one. -/
def moreNames : Nat → Reader (List String)
  | 0 => pure []
  | limit + 1 => do
    blanks
    if ← tryToken "." then
      blanks
      let next ← name
      (next :: ·) <$> moreNames limit
    else pure []

/-- How many names may make up a key, and how many arrays and inline tables may stand inside one
another. -/
def nestLimit : Nat := 80

/-- A key: the names that lead to its last one, and that one. -/
def key : Reader (List String × String) := do
  let first ← name
  let others ← moreNames (← get).length
  if others.length < nestLimit then
    pure ((first :: others).dropLast, (first :: others).getLast (by simp))
  else failure

/-- The characters of unquoted values. -/
def isScalarChar (c : Char) : Bool :=
  c.isAlphanum || c == '-' || c == '+' || c == '_' || c == '.' || c == ':'

/-- An unquoted value. A blank may stand between a date and a time. -/
def scalar : Reader Value := fun cs => do
  let (word, rest) := cs.span isScalarChar
  match date? word, rest with
  | some (_, []), ' ' :: c :: rest =>
    if c.isDigit then
      let (time, rest) := (c :: rest).span isScalarChar
      some (← scalar? (word ++ ' ' :: time), rest)
    else some (← scalar? word, ' ' :: c :: rest)
  | _, rest => some (← scalar? word, rest)

/-- The items of an array after its opening bracket, when `value` reads an item. -/
def items (value : Reader Value) : Nat → List Value → Reader Value
  | 0, _ => failure
  | limit + 1, read => do
    gap
    if ← tryToken "]" then pure (.array read.reverse)
    else
      let item ← value
      gap
      if ← tryToken "," then items value limit (item :: read)
      else
        token "]"
        pure (.array (item :: read).reverse)

/-- The members of an inline table after its opening brace, when `value` reads a value. -/
def members (value : Reader Value) : Nat → Members → Reader Value
  | 0, _ => failure
  | limit + 1, read => do
    gap
    if ← tryToken "\x7d" then pure (Members.close read)
    else
      let (path, last) ← key
      gap
      token "="
      gap
      let item ← value
      let read ← (read.assign .dotted item last path : Option Members)
      gap
      if ← tryToken "," then members value limit read
      else
        token "\x7d"
        pure (Members.close read)

/-- A value that is neither an array nor an inline table. -/
def atom : Reader Value := fun cs =>
  match cs with
  | '"' :: _ | '\'' :: _ => (quoted? cs).map fun (read, rest) => (.text (String.ofList read), rest)
  | cs => scalar cs

/-- A value with at most `depth` arrays and inline tables around one another. -/
def value : (depth : Nat) → Reader Value
  | 0 => atom
  | depth + 1 => do
    if ← tryToken "[" then items (value depth) (← get).length []
    else if ← tryToken "\x7b" then members (value depth) (← get).length []
    else atom

/-- The document under construction. -/
structure State where
  root : Members
  /-- The table that the last header has opened. -/
  path : List String

/-- One line: a header, a member or nothing. -/
def line (reach : Reach) (s : State) : Reader State := do
  blanks
  if ← tryToken "[[" then
    blanks
    let (path, last) ← key
    blanks
    token "]]"
    let root ← (s.root.within (Members.extend last) path : Option Members)
    pure ⟨root, path ++ [last]⟩
  else if ← tryToken "[" then
    blanks
    let (path, last) ← key
    blanks
    token "]"
    let root ← (s.root.within (Members.define last) path : Option Members)
    pure ⟨root, path ++ [last]⟩
  else
    match (← get) with
    | [] | '\n' :: _ | '\r' :: _ | '#' :: _ => pure s
    | _ =>
      let (path, last) ← key
      blanks
      token "="
      blanks
      let item ← value nestLimit
      let root ← (s.root.within (Members.assign reach item last path) s.path : Option Members)
      pure { s with root }

/-- All lines. -/
def lines (reach : Reach) : Nat → State → Reader State
  | 0, s => pure s
  | limit + 1, s => do
    let s ← line reach s
    lineEnd
    if (← get).isEmpty then pure s else lines reach limit s

end Reader

/-- A text without the mark of the byte order that may stand in front. -/
def withoutMark : List Char → List Char
  | '\uFEFF' :: cs => cs
  | cs => cs

/-- The table that characters spell, when dotted keys reach that far. -/
def parse (reach : Reach) (text : List Char) : Option Value := do
  let cs := withoutMark text
  let (final, rest) ← Reader.lines reach (cs.length + 1) ⟨[], []⟩ cs
  if rest.isEmpty then some (Members.close final.root) else none

end QuerySnippet.Toml
