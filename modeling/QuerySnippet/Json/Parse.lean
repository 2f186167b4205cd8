/-
The document that tokens spell.

A `Builder` reads one token after the other. It holds the arrays and objects
that are still open, innermost first, and what may stand at its place.
-/
import QuerySnippet.Json.Token

namespace QuerySnippet.Json

/-- An open array or object. What has been read of it is kept last first. -/
inductive Frame where
  | array (items : List Document)
  | object (members : List (Option String × Document))
  /-- An object whose next member has its name already. -/
  | member (name : Option String) (members : List (Option String × Document))

/-- What may stand next. -/
inductive Place where
  /-- A value. -/
  | value
  /-- The first item of an array, or its end. -/
  | firstItem
  /-- The first name of an object, or its end. -/
  | firstName
  /-- A name. -/
  | name
  /-- The colon after a name. -/
  | colon
  /-- A comma, or the end of what is open. -/
  | separator
  /-- Nothing: the document is complete. -/
  | nothing (document : Document)

/-- The state of the reading. -/
structure Builder where
  place : Place
  frames : List Frame

/-- The object with these members. An unreadable name leaves nothing of it. -/
def objectOf (members : List (Option String × Document)) : Document :=
  match members.mapM fun (name, value) => name.map (·, value) with
  | some members => .object members
  | none => .unreadable .loneSurrogate

namespace Builder

/-- The builder before a document. -/
def start : Builder := ⟨.value, []⟩

/-- Puts a complete value into the innermost open array or object. -/
def complete (value : Document) : List Frame → Option Builder
  | [] => some ⟨.nothing value, []⟩
  | .array items :: frames => some ⟨.separator, .array (value :: items) :: frames⟩
  | .member name members :: frames =>
    some ⟨.separator, .object ((name, value) :: members) :: frames⟩
  | .object _ :: _ => none

/-- Reads a token that begins a value. -/
def begin (frames : List Frame) : Token → Option Builder
  | .openArray => some ⟨.firstItem, .array [] :: frames⟩
  | .openObject => some ⟨.firstName, .object [] :: frames⟩
  | .text (some content) => complete (.text content) frames
  | .text none => complete (.unreadable .loneSurrogate) frames
  | .word value => complete value frames
  | _ => none

/-- Ends the innermost open array or object. -/
def close : List Frame → Token → Option Builder
  | .array items :: frames, .closeArray => complete (.array items.reverse) frames
  | .object members :: frames, .closeObject => complete (objectOf members.reverse) frames
  | _, _ => none

/-- Reads the name of a member. -/
def nameMember : List Frame → Token → Option Builder
  | .object members :: frames, .text name => some ⟨.colon, .member name members :: frames⟩
  | _, _ => none

/-- Goes on after a comma. -/
def goOn : List Frame → Option Builder
  | .array items :: frames => some ⟨.value, .array items :: frames⟩
  | .object members :: frames => some ⟨.name, .object members :: frames⟩
  | _ => none

/-- Reads one token. -/
def step : Builder → Token → Option Builder
  | ⟨.value, frames⟩, token => begin frames token
  | ⟨.firstItem, frames⟩, token => close frames token <|> begin frames token
  | ⟨.firstName, frames⟩, token => close frames token <|> nameMember frames token
  | ⟨.name, frames⟩, token => nameMember frames token
  | ⟨.colon, frames⟩, .colon => some ⟨.value, frames⟩
  | ⟨.separator, frames⟩, .comma => goOn frames
  | ⟨.separator, frames⟩, token => close frames token
  | _, _ => none

/-- The document, when the tokens end here. -/
def finish : Builder → Option Document
  | ⟨.nothing document, _⟩ => some document
  | _ => none

end Builder

/-- The document that tokens spell. -/
def ofTokens (tokens : List Token) : Option Document :=
  (tokens.foldlM Builder.step .start).bind Builder.finish

/-- The document that a text spells. -/
def parse (s : String) : Option Document := (tokens s.toList).bind ofTokens

end QuerySnippet.Json
