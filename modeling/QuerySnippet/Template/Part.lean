/-
The parts of a template: runs of literal text and arguments by index.

`Part.ofTokens` gives tokens their meaning. Neighbouring characters make one
literal, so no literal is empty and no two of them are neighbours, and each
`%s` or `%d` takes the next argument in order, whatever indices stand between.
-/
import QuerySnippet.Template.Token

namespace QuerySnippet.Template

/-- One part of a template. -/
inductive Part where
  /-- Text that is copied as it is. -/
  | literal (text : List Char)
  /-- The argument with this index, counted from zero. -/
  | arg (index : Nat)
deriving DecidableEq, Repr

namespace Part

/-- Puts a literal character in front of the parts. -/
def consChar (c : Char) : List Part → List Part
  | literal text :: parts => literal (c :: text) :: parts
  | parts => literal [c] :: parts

/-- The parts that tokens stand for, when `taken` arguments have been taken in order before. -/
def ofTokens (taken : Nat) : List Token → List Part
  | [] => []
  | .plain c :: tokens => consChar c (ofTokens taken tokens)
  | .openBrace :: tokens => consChar '\x7b' (ofTokens taken tokens)
  | .closeBrace :: tokens => consChar '\x7d' (ofTokens taken tokens)
  | .percent :: tokens => consChar '%' (ofTokens taken tokens)
  | .barePercent :: tokens => consChar '%' (ofTokens taken tokens)
  | .indexed digits :: tokens => arg (index digits) :: ofTokens taken tokens
  | .next _ :: tokens => arg taken :: ofTokens (taken + 1) tokens

/-- The parts of a text, or the leftmost fault in it. -/
def scan (source : List Char) : Except Fault (List Part) :=
  ofTokens 0 <$> Token.read source

/-- The part asks for no argument beyond the first `n`. -/
def FitsIn (n : Nat) : Part → Prop
  | literal _ => True
  | arg i => i < n

/-- The index of an argument beyond the first `n`. -/
def beyond? (n : Nat) : Part → Option Nat
  | literal _ => none
  | arg i => if i < n then none else some i

theorem beyond?_eq_none_iff {n : Nat} {part : Part} : part.beyond? n = none ↔ part.FitsIn n := by
  cases part <;> simp [beyond?, FitsIn]

/-- The text of a part when `args` are the arguments. -/
def fill {n : Nat} (args : Fin n → String) : (part : Part) → part.FitsIn n → List Char
  | literal text, _ => text
  | arg i, h => (args ⟨i, h⟩).toList

/-- The number of arguments the part asks for: one more than its index. -/
def needs : Part → Nat
  | literal _ => 0
  | arg i => i + 1

end Part

end QuerySnippet.Template
