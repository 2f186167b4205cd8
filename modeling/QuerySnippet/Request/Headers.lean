/-
Request headers: names with their values, in the order in which the names
came first.

A document may hold a name twice and a name without values. Headers that are
collected by `insert` never do.
-/
import QuerySnippet.Document.Read
import QuerySnippet.Text.Ascii

namespace QuerySnippet

/-- Header names with their values. -/
structure Headers where
  entries : List (String × List String)
deriving DecidableEq, Repr

namespace Headers

instance : EmptyCollection Headers := ⟨⟨[]⟩⟩

/-- The entries with one more value: at the end of the first entry of that name, or else in a new
entry at the end. -/
def insertEntry (name value : String) : List (String × List String) → List (String × List String)
  | [] => [(name, [value])]
  | (other, values) :: entries =>
    if other = name then (other, values ++ [value]) :: entries
    else (other, values) :: insertEntry name value entries

/-- Adds a value to a header. -/
def insert (h : Headers) (name value : String) : Headers := ⟨insertEntry name value h.entries⟩

/-- The headers that pairs of a name and a value make, one after the other. -/
def ofPairs (pairs : List (String × String)) : Headers :=
  pairs.foldl (fun h (name, value) => h.insert name value) ∅

/-- The number of entries. -/
def size (h : Headers) : Nat := h.entries.length

/-- There is no entry. -/
def isEmpty (h : Headers) : Bool := h.entries.isEmpty

/-- The header that a snippet never shows: the client sets it from the address. -/
def isHost (name : String) : Bool := Text.eqIgnoreCase name "host"

/-- The headers as an object of lists. -/
def toDocument (h : Headers) : Document :=
  .object (h.entries.map fun (name, values) => (name, .array (values.map .text)))

/-- Reads headers: every member in the order of the document. -/
def read : Document → Except Fault Headers
  | .object members => do
    let entries ← members.mapM fun (name, value) => do
      pure (name, ← value.readList Document.readText)
    pure ⟨entries⟩
  | d => .error (d.mismatch "a map of header names to lists of values")

end Headers

end QuerySnippet
