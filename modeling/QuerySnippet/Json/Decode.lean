/-
Reading a value from a JSON text.
-/
import QuerySnippet.Json.Parse
import QuerySnippet.Error

namespace QuerySnippet.Json

/-- Reads a value from a text. A fault is reported only when the document is sound as a whole. -/
def decode {α : Type} (read : Document → Except Fault α) (s : String) : Except Error α :=
  match parse s with
  | none => .error (.json none)
  | some document =>
    (read document).mapError fun fault => .json (if document.isSound then some fault else none)

/-- Reads a value from a text whose document is sound as a whole. -/
def decodeSound {α : Type} (read : Document → Except Fault α) (s : String) : Except Error α :=
  match parse s with
  | none => .error (.json none)
  | some document =>
    if document.isSound then (read document).mapError fun fault => .json (some fault)
    else .error (.json none)

end QuerySnippet.Json
