/-
Requests: what a snippet's query section is made of.
-/
import QuerySnippet.Request.Headers

namespace QuerySnippet

/-- The paging options of a request. -/
structure Paging where
  skip : Option UInt64 := none
  skipToken : Option String := none
  top : Option UInt64 := none
deriving DecidableEq, Repr

/-- A request: headers, clause lists, search and paging. -/
structure Request where
  headers : Headers := ∅
  filter : List String := []
  expand : List String := []
  select : List String := []
  orderBy : List String := []
  searchExpression : Option String := none
  paging : Paging := {}
deriving DecidableEq, Repr

namespace Request

/-- The search expression. An empty one is none. -/
def search (r : Request) : Option String := r.searchExpression.filter (· ≠ "")

/-- The skip token. An empty one is none. -/
def skipToken (r : Request) : Option String := r.paging.skipToken.filter (· ≠ "")

end Request

end QuerySnippet
