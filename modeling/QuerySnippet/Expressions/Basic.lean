/-
Tables of expressions: how one target language writes headers and query
options.
-/
import QuerySnippet.Document.Record
import QuerySnippet.Json.Decode
import QuerySnippet.Toml.Decode

namespace QuerySnippet

/-- The expressions of one target language. The clauses of a list are joined by the delimiter of
that list before they stand in its template. -/
structure Expressions where
  header : Template 2
  filter : Template 1
  search : Template 1
  expand : Template 1
  select : Template 1
  orderBy : Template 1
  skip : Template 1
  skipToken : Template 1
  top : Template 1
  filterDelimiter : String
  expandDelimiter : String
  selectDelimiter : String
  orderByDelimiter : String
deriving DecidableEq

namespace Expressions

/-- A table that is not complete yet. -/
structure Draft where
  header : Option (Template 2) := none
  filter : Option (Template 1) := none
  search : Option (Template 1) := none
  expand : Option (Template 1) := none
  select : Option (Template 1) := none
  orderBy : Option (Template 1) := none
  skip : Option (Template 1) := none
  skipToken : Option (Template 1) := none
  top : Option (Template 1) := none
  filterDelimiter : String := ""
  expandDelimiter : String := ""
  selectDelimiter : String := ""
  orderByDelimiter : String := ""

/-- The table of a draft that has every template, or the name of the first template it lacks. -/
def Draft.finish (d : Draft) : Except String Expressions := do
  let header ← required "header" d.header
  let filter ← required "filter" d.filter
  let search ← required "search" d.search
  let expand ← required "expand" d.expand
  let select ← required "select" d.select
  let orderBy ← required "order_by" d.orderBy
  let skip ← required "skip" d.skip
  let skipToken ← required "skip_token" d.skipToken
  let top ← required "top" d.top
  pure {
    header, filter, search, expand, select, orderBy, skip, skipToken, top
    filterDelimiter := d.filterDelimiter
    expandDelimiter := d.expandDelimiter
    selectDelimiter := d.selectDelimiter
    orderByDelimiter := d.orderByDelimiter }

/-- The record of a table. The templates are required; a delimiter left out is empty. -/
def record : Record Draft Expressions where
  expected := "struct LanguageExpressions"
  fields := [
    .of "header" (Document.readTemplate 2) fun t d => { d with header := some t },
    .of "filter" (Document.readTemplate 1) fun t d => { d with filter := some t },
    .of "search" (Document.readTemplate 1) fun t d => { d with search := some t },
    .of "expand" (Document.readTemplate 1) fun t d => { d with expand := some t },
    .of "select" (Document.readTemplate 1) fun t d => { d with select := some t },
    .of "order_by" (Document.readTemplate 1) fun t d => { d with orderBy := some t },
    .of "skip" (Document.readTemplate 1) fun t d => { d with skip := some t },
    .of "skip_token" (Document.readTemplate 1) fun t d => { d with skipToken := some t },
    .of "top" (Document.readTemplate 1) fun t d => { d with top := some t },
    .of "filter_delimiter" Document.readText fun s d => { d with filterDelimiter := s },
    .of "expand_delimiter" Document.readText fun s d => { d with expandDelimiter := s },
    .of "select_delimiter" Document.readText fun s d => { d with selectDelimiter := s },
    .of "order_by_delimiter" Document.readText fun s d => { d with orderByDelimiter := s }]
  blank := {}
  finish := Draft.finish
  counted := false

/-- The table as a document. -/
def toDocument (e : Expressions) : Document :=
  .object [
    ("header", .text e.header.source),
    ("filter", .text e.filter.source),
    ("search", .text e.search.source),
    ("expand", .text e.expand.source),
    ("select", .text e.select.source),
    ("order_by", .text e.orderBy.source),
    ("skip", .text e.skip.source),
    ("skip_token", .text e.skipToken.source),
    ("top", .text e.top.source),
    ("filter_delimiter", .text e.filterDelimiter),
    ("expand_delimiter", .text e.expandDelimiter),
    ("select_delimiter", .text e.selectDelimiter),
    ("order_by_delimiter", .text e.orderByDelimiter)]

/-- Reads a table from a JSON text. -/
def ofJson (s : String) : Except Error Expressions := Json.decode record.read s

/-- Reads a table from a TOML text. -/
def ofToml (s : String) : Except Error Expressions := Toml.decode record.read s

/-- The JSON text of a table. -/
def toJson (e : Expressions) : String := Json.write e.toDocument

end Expressions

end QuerySnippet
