/-
Path segments in JSON: tagged values.
-/
import QuerySnippet.Edm.Json
import QuerySnippet.Segment.Basic

namespace QuerySnippet

/-- An operation, not complete yet. -/
structure Operation.Draft where
  name : Option String := none
  parameters : List (String × EdmType) := []

/-- The record of an operation. -/
def Operation.record : Record Operation.Draft Operation where
  expected := "struct EdmOperation"
  fields := [
    .of "name" Document.readText fun name d => { d with name := some name },
    .of "parameters" (·.readList (EdmType.named "struct OperationParameter" EdmType.readPart).read)
      fun parameters d => { d with parameters }]
  blank := {}
  finish d := do
    let name ← required "name" d.name
    pure ⟨name, d.parameters⟩
  counted := true

/-- The operation as a document. -/
def Operation.toDocument (o : Operation) : Document :=
  .object [
    ("name", .text o.name),
    ("parameters", .array (o.parameters.map fun (name, type) =>
      EdmType.namedDocument name type.toDocument))]

namespace Segment

/-- The record of a navigation property. -/
def navigationRecord : Record (Option (String × EdmType)) Segment where
  expected := "struct variant PathSegment::NavigationProperty"
  fields := [
    .of "property" (EdmType.named "struct NavigationProperty" EdmType.readPart).read
      fun property _ => some property]
  blank := none
  finish d := do
    let (name, type) ← required "property" d
    pure (navigationProperty name type)
  counted := true

/-- The record of an operation's overloads. -/
def operationRecord : Record (Option (List Operation)) Segment where
  expected := "struct variant PathSegment::Operation"
  fields := [
    .of "operations" (·.readList Operation.record.read) fun overloads _ => some overloads]
  blank := none
  finish d := do
    let overloads ← required "operations" d
    pure (operation overloads)
  counted := true

/-- The record of any other segment. -/
def otherRecord : Record (Option String) Segment where
  expected := "struct variant PathSegment::Other"
  fields := [.of "identifier" Document.readText fun identifier _ => some identifier]
  blank := none
  finish d := do
    let identifier ← required "identifier" d
    pure (other identifier)
  counted := true

/-- A segment. -/
def tagged : Tagged Segment where
  expected := "internally tagged enum PathSegment"
  variants := [
    navigationRecord.variant "navigation_property" id,
    (EdmType.named "struct variant PathSegment::EntitySet" EdmType.readPart).variant "entity_set"
      fun (name, type) => entitySet name type,
    operationRecord.variant "operation" id,
    otherRecord.variant "other" id]

/-- Reads a segment. -/
def read : Document → Except Fault Segment := tagged.read false

/-- The segment as a document. -/
def toDocument : Segment → Document
  | navigationProperty name type =>
    .object [
      ("kind", .text "navigation_property"),
      ("property", EdmType.namedDocument name type.toDocument)]
  | entitySet name type =>
    .object [("kind", .text "entity_set"), ("name", .text name), ("type", type.toDocument)]
  | operation overloads =>
    .object [("kind", .text "operation"), ("operations", .array (overloads.map (·.toDocument)))]
  | other identifier => .object [("kind", .text "other"), ("identifier", .text identifier)]

/-- Reads a segment from a JSON text. -/
def ofJson (s : String) : Except Error Segment := Json.decodeSound read s

/-- The JSON text of a segment. -/
def toJson (s : Segment) : String := Json.write s.toDocument

end Segment

end QuerySnippet
