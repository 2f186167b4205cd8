/-
Types of the entity data model.

A type is displayed by its qualified name, a collection as `Collection(…)`
around its element type.
-/

namespace QuerySnippet

/-- A type of the entity data model. -/
inductive EdmType where
  /-- Any number of elements of one type. -/
  | collection (element : EdmType)
  /-- An entity or complex type with the properties it declares, in order. -/
  | structured (schema name : String) (properties : List (String × EdmType))
  /-- A type that is known by its qualified name only. -/
  | scalar (fullName : String)
deriving Repr

namespace EdmType

/-- The qualified name of a type in a schema. The schema may be empty. -/
def qualified (schema name : String) : String := if schema = "" then name else schema ++ "." ++ name

/-- The text of a type. -/
def display : EdmType → String
  | collection element => "Collection(" ++ element.display ++ ")"
  | structured schema name _ => qualified schema name
  | scalar fullName => fullName

/-- The element type of a collection. -/
def element? : EdmType → Option EdmType
  | collection element => some element
  | _ => none

/-- The type with one collection around it taken off, if there is one. -/
def unwrap (t : EdmType) : EdmType := t.element?.getD t

/-- The qualified name of a structured type. -/
def fullName? : EdmType → Option String
  | structured schema name _ => some (qualified schema name)
  | _ => none

/-- The properties that a type declares: none unless it is structured. -/
def properties : EdmType → List (String × EdmType)
  | structured _ _ properties => properties
  | _ => []

/-- The type of the first declared property with this name. -/
def property? (t : EdmType) (name : String) : Option EdmType :=
  (t.properties.find? (·.1 == name)).map (·.2)

/-- A structured type with one more declared property, at the end. -/
def declare (t : EdmType) (name : String) (type : EdmType) : EdmType :=
  match t with
  | structured schema own properties => structured schema own (properties ++ [(name, type)])
  | t => t

mutual

/-- Two types are the same: equal in every name and in the order of all properties. -/
def same : EdmType → EdmType → Bool
  | collection s, collection t => same s t
  | structured schema name ps, structured schema' name' qs =>
    schema == schema' && name == name' && sameProperties ps qs
  | scalar name, scalar name' => name == name'
  | _, _ => false

/-- Two lists of properties are the same. -/
def sameProperties : List (String × EdmType) → List (String × EdmType) → Bool
  | [], [] => true
  | (name, s) :: ps, (name', t) :: qs => name == name' && same s t && sameProperties ps qs
  | _, _ => false

end

mutual

theorem same_iff : ∀ {s t : EdmType}, same s t = true ↔ s = t
  | collection s, collection t => by simp [same, same_iff (s := s) (t := t)]
  | structured _ _ ps, structured _ _ qs => by
    simp [same, sameProperties_iff (p := ps) (q := qs), and_assoc]
  | scalar _, scalar _ => by simp [same]
  | collection _, structured .. | collection _, scalar _ | structured .., collection _
  | structured .., scalar _ | scalar _, collection _ | scalar _, structured .. => by simp [same]

theorem sameProperties_iff :
    ∀ {p q : List (String × EdmType)}, sameProperties p q = true ↔ p = q
  | [], [] => by simp [sameProperties]
  | (_, s) :: ps, (_, t) :: qs => by
    simp [sameProperties, same_iff (s := s) (t := t), sameProperties_iff (p := ps) (q := qs)]
  | [], _ :: _ | _ :: _, [] => by simp [sameProperties]

end

instance : DecidableEq EdmType := fun _ _ => decidable_of_iff _ same_iff

end EdmType

end QuerySnippet
