/-
Types of the entity data model in JSON: tagged values, whose nesting the
depth of a document bounds.
-/
import QuerySnippet.Document.Tagged
import QuerySnippet.Edm.Basic
import QuerySnippet.Json.Decode

namespace QuerySnippet.EdmType

/-- A name with its type, not complete yet. -/
structure NamedDraft where
  name : Option String := none
  type : Option EdmType := none

/-- The record of a name with its type. -/
def named (expected : String) (readType : Document → Except Fault EdmType) :
    Record NamedDraft (String × EdmType) where
  expected
  fields := [
    .of "name" Document.readText fun name d => { d with name := some name },
    .of "type" readType fun type d => { d with type := some type }]
  blank := {}
  finish d := do
    let name ← required "name" d.name
    let type ← required "type" d.type
    pure (name, type)
  counted := true

/-- A structured type, not complete yet. -/
structure StructuredDraft where
  schema : String := ""
  name : Option String := none
  properties : List (String × EdmType) := []

/-- The record of a structured type. -/
def structuredRecord (readType : Document → Except Fault EdmType) :
    Record StructuredDraft EdmType where
  expected := "struct StructuredType"
  fields := [
    .of "namespace" Document.readText fun schema d => { d with schema },
    .of "name" Document.readText fun name d => { d with name := some name },
    .of "declared_properties" (·.readList (named "struct EdmProperty" readType).read)
      fun properties d => { d with properties }]
  blank := {}
  finish d := do
    let name ← required "name" d.name
    pure (structured d.schema name d.properties)
  counted := true

/-- The record of a collection. -/
def collectionRecord (readType : Document → Except Fault EdmType) :
    Record (Option EdmType) EdmType where
  expected := "struct variant EdmType::Collection"
  fields := [.of "element_type" readType fun element _ => some element]
  blank := none
  finish d := do
    let element ← required "element_type" d
    pure (collection element)
  counted := true

/-- The record of a type known by its name. -/
def scalarRecord : Record (Option String) EdmType where
  expected := "struct variant EdmType::Scalar"
  fields := [.of "full_name" Document.readText fun name _ => some name]
  blank := none
  finish d := do
    let name ← required "full_name" d
    pure (scalar name)
  counted := true

/-- A type, when `readType` reads the types inside it. -/
def tagged (readType : Document → Except Fault EdmType) : Tagged EdmType where
  expected := "internally tagged enum EdmType"
  variants := [
    (collectionRecord readType).variant "collection" id,
    (structuredRecord readType).variant "structured" id,
    scalarRecord.variant "scalar" id]

/-- Reads a type that stands inside another value, from a document less than `limit` deep. -/
def readInside : (limit : Nat) → Document → Except Fault EdmType
  | 0, d => .error (d.mismatch "internally tagged enum EdmType")
  | limit + 1, d => (tagged (readInside limit)).read true d

/-- A bound on the depth of every sound document. -/
def depthLimit : Nat := Document.maxDepth + 1

/-- Reads a type that is part of another value. -/
def readPart : Document → Except Fault EdmType := readInside depthLimit

/-- Reads a type. -/
def read : Document → Except Fault EdmType := (tagged readPart).read false

/-- A name with its type as a document. -/
def namedDocument (name : String) (type : Document) : Document :=
  .object [("name", .text name), ("type", type)]

mutual

/-- A type as a document. -/
def toDocument : EdmType → Document
  | collection element =>
    .object [("kind", .text "collection"), ("element_type", element.toDocument)]
  | structured schema name properties =>
    .object [
      ("kind", .text "structured"),
      ("namespace", .text schema),
      ("name", .text name),
      ("declared_properties", .array (propertyDocuments properties))]
  | scalar fullName => .object [("kind", .text "scalar"), ("full_name", .text fullName)]

/-- Properties as documents. -/
def propertyDocuments : List (String × EdmType) → List Document
  | [] => []
  | (name, type) :: properties =>
    namedDocument name type.toDocument :: propertyDocuments properties

end

/-- Reads a type from a JSON text. -/
def ofJson (s : String) : Except Error EdmType := Json.decodeSound read s

/-- The JSON text of a type. -/
def toJson (t : EdmType) : String := Json.write t.toDocument

end QuerySnippet.EdmType
