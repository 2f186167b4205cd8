/-
Readers of plain values: texts, numbers, lists, templates.
-/
import QuerySnippet.Document.Fault

namespace QuerySnippet.Document

/-- Reads a text. -/
def readText : Document → Except Fault String
  | text value => .ok value
  | d => .error (d.mismatch "a string")

/-- Reads a truth value. -/
def readBoolean : Document → Except Fault Bool
  | boolean value => .ok value
  | d => .error (d.mismatch "a boolean")

/-- Reads an unsigned 64-bit word. -/
def readWord : Document → Except Fault UInt64
  | integer value =>
    if Number.fitsUnsigned 64 value then .ok (.ofNat value.toNat)
    else .error (.wrongValue (.integer value) "u64")
  | d => .error (d.mismatch "u64")

/-- Reads nothing, or what `read` reads. -/
def readOptional {α : Type} (read : Document → Except Fault α) : Document → Except Fault (Option α)
  | null => .ok none
  | d => some <$> read d

/-- Reads a list of what `read` reads. -/
def readList {α : Type} (read : Document → Except Fault α) : Document → Except Fault (List α)
  | array items => items.mapM read
  | d => .error (d.mismatch "a sequence")

/-- Reads a template for `n` arguments. -/
def readTemplate (n : Nat) (d : Document) : Except Fault (Template n) := do
  (Template.parse n (← d.readText)).mapError .template

end QuerySnippet.Document
