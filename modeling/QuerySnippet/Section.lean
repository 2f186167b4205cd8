/-
The query section of a snippet: the headers and query options of a request,
each written as the table of expressions says.

The fragments come in a fixed order: headers, filter, search, expand, select,
order, skip, skip token, top. A feature that the request does not have leaves
nothing.
-/
import QuerySnippet.Clause
import QuerySnippet.Expressions.Basic
import QuerySnippet.Request.Basic

namespace QuerySnippet

namespace Template

/-- The text of a template with one argument. -/
def render₁ (t : Template 1) (value : String) : String := t.render fun _ => value

/-- The text of a template with two arguments. -/
def render₂ (t : Template 2) (first second : String) : String :=
  t.render fun i => if i = 0 then first else second

end Template

namespace Section

/-- The fragment of one header: nothing for the host, else the name and the first value. -/
def header (t : Template 2) : String × List String → Except Error String
  | (name, values) =>
    if Headers.isHost name then .ok ""
    else match values with
      | [] => .error (.missingHeaderValue name)
      | value :: _ => .ok (t.render₂ name value)

/-- The fragment of a clause list: nothing when it is empty. -/
def clauses (t : Template 1) (delimiter : String) (items : List String) : String :=
  if items.isEmpty then "" else t.render₁ (joinClauses delimiter items)

/-- The fragment of a value that may be absent. -/
def value (t : Template 1) : Option String → String
  | none => ""
  | some text => t.render₁ text

/-- A paging number in decimal. -/
def decimal (n : UInt64) : String := toString n.toNat

/-- The fragments after the headers. -/
def options (e : Expressions) (r : Request) : List String :=
  [ clauses e.filter e.filterDelimiter r.filter,
    value e.search r.search,
    clauses e.expand e.expandDelimiter r.expand,
    clauses e.select e.selectDelimiter r.select,
    clauses e.orderBy e.orderByDelimiter r.orderBy,
    value e.skip (r.paging.skip.map decimal),
    value e.skipToken r.skipToken,
    value e.top (r.paging.top.map decimal) ]

end Section

/-- The query section of a request. A header without values has nothing to show, which is an
error. -/
def querySection (e : Expressions) (r : Request) : Except Error String := do
  let headers ← r.headers.entries.mapM (Section.header e.header)
  pure (String.join (headers ++ Section.options e r))

end QuerySnippet
