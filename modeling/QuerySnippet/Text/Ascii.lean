/-
Comparison of names up to ASCII case: `A` to `Z` count as `a` to `z`, every
other character only as itself.
-/

namespace QuerySnippet.Text

/-- The characters of a name with `A` to `Z` in lower case. -/
def foldCase (s : String) : List Char := s.toList.map Char.toLower

/-- Equality up to ASCII case. -/
def eqIgnoreCase (a b : String) : Bool := foldCase a == foldCase b

theorem eqIgnoreCase_iff {a b : String} : eqIgnoreCase a b = true ↔ foldCase a = foldCase b := by
  simp [eqIgnoreCase]

end QuerySnippet.Text
