/-
Reading a value from a TOML text.
-/
import QuerySnippet.Error
import QuerySnippet.Toml.Parse

namespace QuerySnippet.Toml

/-- Reads a value from a text. A number that is too large is an error wherever it stands, and a
fault is reported only when every number is a modest one. -/
def decode {α : Type} (read : Document → Except Fault α) (s : String) : Except Error α :=
  match parse .dotted s.toList with
  | none => .error (.toml none)
  | some value =>
    if value.isSound then
      (read value.toDocument).mapError fun fault =>
        .toml (if value.isModest then some fault else none)
    else .error (.toml none)

end QuerySnippet.Toml
