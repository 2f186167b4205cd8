/-
Templates with a fixed number of arguments.

`Template.parse n` accepts a text whose tokens ask for the first `n`
arguments at most. What it accepts carries that fact along, so `render` fills
every place and cannot fail. A text that has no tokens is `invalid`, wherever
else it asks for an argument too many; `mismatch` names the first such index.
-/
import QuerySnippet.Template.Part
import QuerySnippet.Text.Quoted

namespace QuerySnippet

/-- A text with places for `n` arguments. -/
structure Template (n : Nat) where
  /-- The text as it was written. -/
  source : String
  /-- Its literal texts and arguments, in order. -/
  parts : List Template.Part
  /-- The parts are those of the text. -/
  scan_source : Template.Part.scan source.toList = .ok parts
  /-- Every argument is one of the first `n`. -/
  fits : ∀ part ∈ parts, part.FitsIn n

namespace Template

/-- Why a text is no template for a number of arguments. -/
inductive Error where
  /-- The text has no tokens. -/
  | invalid (source : String) (fault : Fault)
  /-- The text asks for argument `index`, but there are only `expected`. -/
  | mismatch (source : String) (expected index : Nat)
deriving DecidableEq, Repr

/-- What is wrong with the text, in words. -/
def Fault.message : Fault → String
  | .unexpected c => "unexpected '" ++ c.toString ++ "' inside placeholder"
  | .unclosed => "unclosed '\x7b'"
  | .empty => "empty placeholder '\x7b\x7d'"
  | .unmatched => "unmatched '\x7d'"
  | .tooLarge => "bad placeholder index: number too large to fit in target type"

/-- The message of a template error. -/
def Error.message : Error → String
  | .invalid source fault => "Invalid template " ++ Text.quoted source ++ ": " ++ fault.message
  | .mismatch source expected index =>
    "Template " ++ Text.quoted source ++ " references argument \x7b" ++ toString index
      ++ "\x7d but only " ++ toString expected ++ " argument(s) are supplied"

/-- Reads a template for `n` arguments. -/
def parse (n : Nat) (source : String) : Except Error (Template n) :=
  match scanned : Part.scan source.toList with
  | .error fault => .error (.invalid source fault)
  | .ok parts =>
    match beyond : parts.findSome? (Part.beyond? n) with
    | some index => .error (.mismatch source n index)
    | none => .ok {
        source, parts
        scan_source := scanned
        fits := fun part h =>
          Part.beyond?_eq_none_iff.1 (List.findSome?_eq_none_iff.1 beyond part h) }

variable {n : Nat}

instance : DecidableEq (Template n) := fun s t =>
  if h : s.source = t.source then
    .isTrue (by
      obtain ⟨source, parts, hs, _⟩ := s
      obtain ⟨_, parts', ht, _⟩ := t
      cases h
      cases Except.ok.inj (hs.symm.trans ht)
      rfl)
  else .isFalse (fun e => h (congrArg source e))

/-- The number of arguments the template asks for: one more than its largest index. -/
def referencedArgs (t : Template n) : Nat := (t.parts.map Part.needs).foldr max 0

/-- The text with the arguments in their places. -/
def render (t : Template n) (args : Fin n → String) : String :=
  String.ofList (t.parts.attach.flatMap fun part => part.1.fill args (t.fits part.1 part.2))

end Template

end QuerySnippet
