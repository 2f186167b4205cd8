/-
Layers of settings, and their loose values.

A layer gives values to names; where two of its entries, or two layers, speak
of one name the later one holds. A name may be a path into lists and tables;
no setting is made of those. A value need not have the type of the setting:
numbers and truth values make texts, and numbers and certain words make truth
values. So a value is kept as it is, whatever it was written in.
-/
import QuerySnippet.Error
import QuerySnippet.Text.Case
import QuerySnippet.Toml.Parse

namespace QuerySnippet.Settings

/-- A value of a setting. -/
inductive Loose where
  /-- Nothing, where a file can say so. -/
  | null
  | boolean (value : Bool)
  | integer (value : Int)
  | floating (value : Number.Binary64)
  | text (value : String)
  /-- What makes no setting: a list or a table. -/
  | other

/-- A value of a TOML text. A date or time is taken as it is written in full. -/
def Loose.ofToml : Toml.Value → Loose
  | .text value => .text value
  | .boolean value => .boolean value
  | .integer value => .integer value
  | .floating value => .floating value
  | .moment written => .text written
  | _ => .other

/-- Values by their names, as the names are written. Later entries go before earlier ones. -/
abbrev Layer := List (String × Loose)

/-- The characters of the names in a path such as `a.b[0]`. -/
def isNameChar (c : Char) : Bool := c.isAlphanum || c == '-' || c == '_'

/-- Blanks around a position. -/
def isGap (c : Char) : Bool := c == ' ' || c == '\t'

/-- The position between the brackets of a path: an integer of 64 bits, maybe with blanks around
it, and without a sign unless it is negative. -/
def position? (cs : List Char) : Option Int :=
  let cs := cs.dropWhile isGap
  let (negative, rest) := match cs with
    | '-' :: rest => (true, rest)
    | rest => (false, rest)
  let (digits, rest) := rest.span Char.isDigit
  let size : Int := Nat.ofDigitChars 10 digits 0
  let position := if negative then -size else size
  if !digits.isEmpty && rest.all isGap && Number.fitsSigned 64 position then some position
  else none

/-- The positions in what follows the first name of a path, if it is a sequence of the parts that
may follow it. -/
def positions? : (limit : Nat) → List Char → Option (List Int)
  | _, [] => some []
  | 0, _ => none
  | limit + 1, '.' :: cs =>
    let (name, rest) := cs.span isNameChar
    if name.isEmpty then none else positions? limit rest
  | limit + 1, '[' :: cs =>
    match cs.span (· != ']') with
    | (inside, _ :: rest) => do
      let position ← position? inside
      let positions ← positions? limit rest
      pure (position :: positions)
    | _ => none
  | _, _ => none

/-- The first name of a path of several parts, and the positions in it. -/
def path? (name : String) : Option (String × List Int) :=
  let (first, tail) := name.toList.span isNameChar
  if first.isEmpty || tail.isEmpty then none
  else (positions? tail.length tail).map (String.ofList first, ·)

/-- An entry by its name. An entry that is named by a path gives the first name of the path a value
of several parts. -/
def entryOf (name : String) (value : Loose) : String × Loose :=
  match path? name with
  | some (first, _) => (first, .other)
  | none => (name, value)

/-- The value of a name. -/
def Layer.value? (layer : Layer) (name : String) : Option Loose :=
  (layer.map fun (name, value) => entryOf name value).reverse.lookup name

/-- The layer that a TOML text spells. Of two byte order marks in front both are passed over. -/
def Layer.ofToml (s : String) : Except Error Layer :=
  match Toml.parse .implied (Toml.withoutMark s.toList) with
  | some (.table members) =>
    if Toml.Value.allMemberNumbers (Number.fitsSigned 64) members then
      .ok (members.map fun (name, value) => (name, .ofToml value))
    else .error .settings
  | _ => .error .settings

/-- An integer of 64 bits. -/
def integer? (cs : List Char) : Option Int :=
  let (negative, digits) := Text.takeSign cs
  if digits.isEmpty ∨ !digits.all Char.isDigit then none
  else
    let size : Int := Nat.ofDigitChars 10 digits 0
    let n := if negative then -size else size
    if Number.fitsSigned 64 n then some n else none

/-- The exponent after the mantissa of a number: nothing at all, or its letter and digits. -/
def exponent? : List Char → Option Int
  | [] => some 0
  | c :: cs =>
    let (negative, digits) := Text.takeSign cs
    if (c = 'e' ∨ c = 'E') ∧ !digits.isEmpty ∧ digits.all Char.isDigit then
      let size : Int := Nat.ofDigitChars 10 digits 0
      some (if negative then -size else size)
    else none

/-- A floating point number: digits with or without a point anywhere among them. -/
def floating? (cs : List Char) : Option Number.Binary64 := do
  let (negative, cs) := Text.takeSign cs
  let word := (cs.map Char.toLower)
  if word = "inf".toList ∨ word = "infinity".toList then some (.infinite negative)
  else if word = "nan".toList then some .nan
  else
    let (whole, rest) := cs.span Char.isDigit
    let (fraction, rest) := match rest with
      | '.' :: rest => rest.span Char.isDigit
      | rest => ([], rest)
    let exponent ← exponent? rest
    if whole.isEmpty ∧ fraction.isEmpty then none
    else some (.ofDecimal negative (Nat.ofDigitChars 10 (whole ++ fraction) 0)
      (exponent - fraction.length))

/-- The value of a variable: a truth value, a number, or else a text. -/
def ofVariable (s : String) : Loose :=
  let lower := Text.lowercased s
  if lower = "true" then .boolean true
  else if lower = "false" then .boolean false
  else match integer? s.toList, floating? s.toList with
    | some n, _ => .integer n
    | none, some x => .floating x
    | none, none => .text s

/-- What the names of variables begin with, in any case. -/
def variableMark : List Char := "odata_snippets_".toList

/-- The layer of the environment. -/
def Layer.ofEnvironment (environment : List (String × String)) : Layer :=
  environment.filterMap fun (name, value) =>
    let name := (Text.lowercased name).toList
    if variableMark.isPrefixOf name then
      some (String.ofList (name.drop variableMark.length), ofVariable value)
    else none

/-- Numbers in texts are written in full. -/
def numberStyle : Number.Style where
  inFull _ := true
  wholePoint := false
  tie := .up

/-- The text that a loose value makes. -/
def looseText : Loose → Except Error String
  | .text s => .ok s
  | .boolean b => .ok (toString b)
  | .integer n => .ok (toString n)
  | .floating x => .ok (x.text numberStyle)
  | _ => .error .settings

/-- The truth value that a word stands for. -/
def truthOf (word : String) : Except Error Bool :=
  if word ∈ ["1", "true", "on", "yes"] then .ok true
  else if word ∈ ["0", "false", "off", "no"] then .ok false
  else .error .settings

/-- The truth value that a loose value makes. -/
def looseBoolean : Loose → Except Error Bool
  | .boolean b => .ok b
  | .integer n => .ok (n ≠ 0)
  | .floating (.finite _ x) => .ok (x.significand ≠ 0)
  | .floating _ => .ok true
  | .text s => truthOf (Text.lowercased s)
  | _ => .error .settings

/-- What a loose value makes for a setting that may be absent. -/
def looseOptional {α : Type} (read : Loose → Except Error α) : Loose → Except Error (Option α)
  | .null => .ok none
  | value => some <$> read value

end QuerySnippet.Settings
