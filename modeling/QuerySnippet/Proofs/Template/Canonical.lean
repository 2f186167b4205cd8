/-
The parts of a template are in a normal form.

`Part.ofTokens` puts neighbouring characters into one literal, and it opens a
literal only for a character. So whatever the tokens are, no literal is empty
and no two of them are neighbours (`canonical_of_scan`), and from its
characters a literal is built again as it was (`foldr_consChar`).
-/
import Mathlib.Data.List.Chain
import QuerySnippet.Proofs.Template.Grammar

namespace QuerySnippet.Template.Part

/-- The part is a literal text. -/
def IsLiteral : Part → Prop
  | literal _ => True
  | arg _ => False

/-- The parts do not begin with a literal. -/
def NoLiteralFirst (parts : List Part) : Prop := ∀ part ∈ parts.head?, ¬ part.IsLiteral

/-- No literal is empty, and no two literals are neighbours. -/
inductive Canonical : List Part → Prop
  | nil : Canonical []
  | literal {text parts} : text ≠ [] → NoLiteralFirst parts → Canonical parts →
      Canonical (.literal text :: parts)
  | arg {index parts} : Canonical parts → Canonical (.arg index :: parts)

theorem Canonical.literal_nil_notMem {parts : List Part} (h : Canonical parts) :
    .literal [] ∉ parts := by
  induction h with
  | nil => exact List.not_mem_nil
  | literal hne _ _ ih => simp [ih, hne.symm]
  | arg _ ih => simp [ih]

theorem Canonical.isChain {parts : List Part} (h : Canonical parts) :
    parts.IsChain fun p q => ¬ (p.IsLiteral ∧ q.IsLiteral) := by
  induction h with
  | nil => exact .nil
  | literal _ hfirst _ ih => exact ih.cons fun q hq hboth => hfirst q hq hboth.2
  | arg _ ih => exact ih.cons fun _ _ hboth => hboth.1

theorem canonical_consChar (c : Char) {parts : List Part} (h : Canonical parts) :
    Canonical (consChar c parts) := by
  cases h with
  | nil => exact .literal (by simp) (by simp [NoLiteralFirst]) .nil
  | literal _ hfirst hrest => exact .literal (by simp) hfirst hrest
  | arg hrest => exact .literal (by simp) (by simp [NoLiteralFirst, IsLiteral]) (.arg hrest)

theorem canonical_ofTokens (taken : Nat) (tokens : List Token) :
    Canonical (ofTokens taken tokens) := by
  induction tokens generalizing taken with
  | nil => exact .nil
  | cons token tokens ih =>
    cases token with
    | indexed _ | next _ => exact .arg (ih _)
    | plain _ | openBrace | closeBrace | percent | barePercent => exact canonical_consChar _ (ih _)

/-- The parts of a text are in normal form. -/
theorem canonical_of_scan {source : List Char} {parts : List Part} (h : scan source = .ok parts) :
    Canonical parts := by
  obtain ⟨tokens, -, rfl⟩ := Except.map_eq_ok.1 h
  exact canonical_ofTokens 0 tokens

/-- The characters of a literal make that literal, in front of parts that do not begin with one. -/
theorem foldr_consChar {parts : List Part} (h : NoLiteralFirst parts) : ∀ {text : List Char},
    text ≠ [] → text.foldr consChar parts = literal text :: parts
  | [c], _ => by
    cases parts with
    | nil => rfl
    | cons part parts =>
      cases part with
      | literal _ => exact absurd trivial (h _ rfl)
      | arg _ => rfl
  | c :: d :: text, _ => by
    rw [List.foldr_cons, foldr_consChar h (List.cons_ne_nil d text)]
    rfl

end QuerySnippet.Template.Part
