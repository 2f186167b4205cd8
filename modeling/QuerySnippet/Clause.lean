/-
Clause lists on one line.

Each clause is written with the delimiter after it, and one delimiter is then
taken off the end. Whatever the clauses contain, what is taken off is the
delimiter written last, so the clauses stand with one delimiter between
neighbours.
-/

namespace QuerySnippet

/-- Removes `delimiter` from the end of `s`, once, if it stands there. -/
def dropTrailing (delimiter s : List Char) : List Char :=
  if delimiter.isSuffixOf s then s.take (s.length - delimiter.length) else s

/-- The clauses in order, separated by the delimiter. -/
def joinClauses (delimiter : String) (clauses : List String) : String :=
  String.ofList <|
    dropTrailing delimiter.toList (clauses.flatMap fun clause => clause.toList ++ delimiter.toList)

end QuerySnippet
