/-
Requests in JSON. Every member may be left out.
-/
import QuerySnippet.Document.Record
import QuerySnippet.Json.Decode
import QuerySnippet.Request.Basic

namespace QuerySnippet

/-- A value that may be absent. -/
def Document.ofOption {α : Type} (write : α → Document) : Option α → Document
  | none => .null
  | some a => write a

/-- A list of texts. -/
def Document.ofTexts (texts : List String) : Document := .array (texts.map .text)

/-- An unsigned number. -/
def Document.ofWord (n : UInt64) : Document := .integer n.toNat

/-- The record of paging options. -/
def Paging.record : Record Paging Paging where
  expected := "struct ODataUri"
  fields := [
    .of "skip" (·.readOptional Document.readWord) fun skip p => { p with skip },
    .of "skip_token" (·.readOptional Document.readText) fun skipToken p => { p with skipToken },
    .of "top" (·.readOptional Document.readWord) fun top p => { p with top }]
  blank := {}
  finish := .ok
  counted := false

/-- The paging options as a document. -/
def Paging.toDocument (p : Paging) : Document :=
  .object [
    ("skip", .ofOption .ofWord p.skip),
    ("skip_token", .ofOption .text p.skipToken),
    ("top", .ofOption .ofWord p.top)]

namespace Request

/-- The record of a request. -/
def record : Record Request Request where
  expected := "struct RequestModel"
  fields := [
    .of "request_headers" Headers.read fun headers r => { r with headers },
    .of "filter_field_list" (·.readList Document.readText) fun filter r => { r with filter },
    .of "expand_field_list" (·.readList Document.readText) fun expand r => { r with expand },
    .of "select_field_list" (·.readList Document.readText) fun select r => { r with select },
    .of "order_by_field_list" (·.readList Document.readText) fun orderBy r => { r with orderBy },
    .of "search_expression" (·.readOptional Document.readText) fun searchExpression r =>
      { r with searchExpression },
    .of "odata_uri" Paging.record.read fun paging r => { r with paging }]
  blank := {}
  finish := .ok
  counted := false

/-- The request as a document. -/
def toDocument (r : Request) : Document :=
  .object [
    ("request_headers", r.headers.toDocument),
    ("filter_field_list", .ofTexts r.filter),
    ("expand_field_list", .ofTexts r.expand),
    ("select_field_list", .ofTexts r.select),
    ("order_by_field_list", .ofTexts r.orderBy),
    ("search_expression", .ofOption .text r.searchExpression),
    ("odata_uri", r.paging.toDocument)]

/-- Reads a request from a JSON text. -/
def ofJson (s : String) : Except Error Request := Json.decode record.read s

/-- The JSON text of a request. -/
def toJson (r : Request) : String := Json.write r.toDocument

end Request

end QuerySnippet
