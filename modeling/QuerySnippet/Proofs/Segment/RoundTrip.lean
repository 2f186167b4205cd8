/-
Path segments come back from JSON as they were, unless they are nested too deep.

The types in a segment stand in further arrays and objects, which count like
those of a type: one around an entity set, two around a navigation property,
and around a parameter one for the operations, one for the overload, one for
its parameters and one for the parameter itself.
-/
import QuerySnippet.Proofs.Edm.RoundTrip
import QuerySnippet.Segment.Json

namespace QuerySnippet

namespace Segment

/-! ## Nesting -/

/-- The number of arrays and objects inside one another in the text of a segment. -/
def nest : Segment → Nat
  | navigationProperty _ type => 2 + type.nest
  | entitySet _ type => 1 + type.nest
  | operation overloads =>
    if overloads.isEmpty then 2
    else if (overloads.flatMap (·.parameters)).isEmpty then 4
    else 5 + EdmType.largestNest (overloads.flatMap (·.parameters))
  | other _ => 1

/-- The types that stand directly inside a segment. -/
def parts : Segment → List EdmType
  | navigationProperty _ type => [type]
  | entitySet _ type => [type]
  | operation overloads => (overloads.flatMap (·.parameters)).map (·.2)
  | other _ => []

end Segment

theorem EdmType.largestNest_append (some more : List (String × EdmType)) :
    largestNest (some ++ more) = max (largestNest some) (largestNest more) := by
  induction some with
  | nil => simp [largestNest]
  | cons property properties ih =>
    rw [List.cons_append, largestNest, largestNest, ih, Nat.max_assoc]

/-! ## The document of a segment -/

theorem Operation.toDocument_eq (o : Operation) :
    o.toDocument = .object [
      ("name", .text o.name),
      ("parameters", .array (EdmType.propertyDocuments o.parameters))] := by
  rw [toDocument, EdmType.propertyDocuments_eq]

theorem Operation.depth_toDocument (o : Operation) : o.toDocument.depth =
    if o.parameters.isEmpty then 2 else 3 + EdmType.largestNest o.parameters := by
  rw [toDocument_eq]
  simp only [Document.depth, Document.membersDepth, EdmType.itemsDepth_propertyDocuments]
  split <;> omega

theorem Operation.plain_toDocument (o : Operation) : o.toDocument.Plain := by
  rw [toDocument_eq]
  exact ⟨trivial, EdmType.plain_propertyDocuments o.parameters, trivial⟩

theorem Operation.itemsDepth_toDocument (overloads : List Operation) :
    Document.itemsDepth (overloads.map (·.toDocument)) =
      if overloads.isEmpty then 0
      else if (overloads.flatMap (·.parameters)).isEmpty then 2
      else 3 + EdmType.largestNest (overloads.flatMap (·.parameters)) := by
  induction overloads with
  | nil => rfl
  | cons overload overloads ih =>
    rw [List.map_cons, Document.itemsDepth, ih, Operation.depth_toDocument, List.flatMap_cons,
      EdmType.largestNest_append]
    cases overloads with
    | nil => cases overload.parameters <;> simp [EdmType.largestNest]
    | cons next overloads =>
      cases overload.parameters <;> cases (next :: overloads).flatMap (·.parameters) <;>
        simp [EdmType.largestNest] <;> omega

namespace Segment

/-- The depth of a segment's document is its nesting. -/
theorem depth_toDocument (s : Segment) : s.toDocument.depth = s.nest := by
  cases s with
  | navigationProperty name type =>
    simp only [toDocument, nest, Document.depth, Document.membersDepth,
      EdmType.depth_namedDocument, EdmType.depth_toDocument]
    omega
  | entitySet name type =>
    simp only [toDocument, nest, Document.depth, Document.membersDepth, EdmType.depth_toDocument]
    omega
  | operation overloads =>
    simp only [toDocument, Document.depth, Document.membersDepth, Operation.itemsDepth_toDocument]
    rw [nest]
    split
    · rfl
    · split <;> omega
  | other identifier => rfl

theorem plain_toDocument (s : Segment) : s.toDocument.Plain := by
  cases s with
  | navigationProperty name type =>
    exact ⟨trivial, EdmType.plain_namedDocument type.plain_toDocument, trivial⟩
  | entitySet name type => exact ⟨trivial, trivial, type.plain_toDocument, trivial⟩
  | operation overloads =>
    refine ⟨trivial, Document.plainItems_iff.2 fun item hmem => ?_, trivial⟩
    obtain ⟨overload, -, rfl⟩ := List.mem_map.1 hmem
    exact overload.plain_toDocument
  | other identifier => exact ⟨trivial, trivial, trivial⟩

theorem nest_lt_of_mem_parts {s : Segment} {t : EdmType} (h : t ∈ s.parts) : t.nest < s.nest := by
  cases s with
  | navigationProperty name type =>
    obtain rfl : t = type := by simpa [parts] using h
    rw [nest]
    omega
  | entitySet name type =>
    obtain rfl : t = type := by simpa [parts] using h
    rw [nest]
    omega
  | operation overloads =>
    obtain ⟨parameter, hmem, rfl⟩ :=
      List.mem_map.1 (show t ∈ (overloads.flatMap (·.parameters)).map (·.2) from h)
    have hle := EdmType.nest_le_largestNest hmem
    obtain ⟨overload, hoverload, -⟩ := List.mem_flatMap.1 hmem
    have hsome : ¬ overloads.isEmpty := by simpa using List.ne_nil_of_mem hoverload
    have hparameters : ¬ (overloads.flatMap (·.parameters)).isEmpty := by
      rw [List.isEmpty_iff]
      exact List.ne_nil_of_mem hmem
    rw [nest, if_neg hsome, if_neg hparameters]
    omega
  | other identifier => cases h

end Segment

/-! ## Reading a segment -/

/-- An operation is read as it is written, when the types of its parameters are. -/
theorem Operation.read_toDocument {o : Operation}
    (h : ∀ parameter ∈ o.parameters, EdmType.readPart parameter.2.toDocument = .ok parameter.2) :
    record.read o.toDocument = .ok o := by
  have hparameters := EdmType.readList_named "struct OperationParameter" h
  rw [toDocument_eq]
  exact Record.ofMembers_of_written (by decide)
    (.cons (Field.read_of rfl) (.cons (Field.read_of hparameters) .nil)) rfl

namespace Segment

/-- A segment is read as it is written, when the types inside it are. -/
theorem read_of_parts {s : Segment} (h : ∀ t ∈ s.parts, EdmType.readPart t.toDocument = .ok t) :
    read s.toDocument = .ok s := by
  cases s with
  | navigationProperty name type =>
    have hproperty : (EdmType.named "struct NavigationProperty" EdmType.readPart).read
        (EdmType.namedDocument name type.toDocument) = .ok (name, type) :=
      EdmType.ofMembers_named (h type (by simp [parts]))
    have hrecord : navigationRecord.ofMembers
        [("property", EdmType.namedDocument name type.toDocument)] =
          .ok (navigationProperty name type) :=
      Record.ofMembers_of_written (by decide) (.cons (Field.read_of hproperty) .nil) rfl
    exact Tagged.read_object false id rfl (by simp [Tagged.tagName]) hrecord
  | entitySet name type =>
    -- The kind fixes what is done with the pair; from the goal alone it could also be
    -- `entitySet name`, done with the type.
    let named := EdmType.named "struct variant PathSegment::EntitySet" EdmType.readPart
    have hvariant : tagged.variants.find? (·.tag == "entity_set") =
        some (named.variant "entity_set" fun named => entitySet named.1 named.2) := rfl
    have hrecord : named.ofMembers [("name", .text name), ("type", type.toDocument)] =
        .ok (name, type) :=
      EdmType.ofMembers_named (h type (by simp [parts]))
    have hread := Tagged.read_object false _ hvariant (by simp [Tagged.tagName]) hrecord
    exact hread
  | operation overloads =>
    have hoverloads : (Document.array (overloads.map (·.toDocument))).readList
        Operation.record.read = .ok overloads := by
      refine Document.readList_array fun overload hoverload => ?_
      refine Operation.read_toDocument fun parameter hmem => h parameter.2 ?_
      exact List.mem_map_of_mem (List.mem_flatMap.2 ⟨overload, hoverload, hmem⟩)
    have hrecord : operationRecord.ofMembers
        [("operations", .array (overloads.map (·.toDocument)))] = .ok (operation overloads) :=
      Record.ofMembers_of_written (by decide) (.cons (Field.read_of hoverloads) .nil) rfl
    exact Tagged.read_object false id rfl (by simp [Tagged.tagName]) hrecord
  | other identifier =>
    have hrecord : otherRecord.ofMembers [("identifier", .text identifier)] =
        .ok (other identifier) :=
      Record.ofMembers_of_written (by decide) (.cons (Field.read_of rfl) .nil) rfl
    exact Tagged.read_object false id rfl (by simp [Tagged.tagName]) hrecord

theorem read_toDocument {s : Segment} (h : s.nest ≤ Document.maxDepth) :
    read s.toDocument = .ok s :=
  read_of_parts fun _ ht => EdmType.readPart_toDocument ((nest_lt_of_mem_parts ht).le.trans h)

end Segment

/-- **Types and segments come back from their JSON texts** when they are nested at most 127 deep,
and otherwise not at all. -/
theorem ofJson_toJson_by_nest :
    (∀ t : EdmType, EdmType.ofJson t.toJson =
      if t.nest ≤ 127 then .ok t else .error (.json none)) ∧
    (∀ s : Segment, Segment.ofJson s.toJson =
      if s.nest ≤ 127 then .ok s else .error (.json none)) := by
  constructor
  · intro t
    rw [← t.depth_toDocument]
    exact Json.decodeSound_write t.plain_toDocument fun h =>
      EdmType.read_toDocument (t.depth_toDocument.symm.trans_le h)
  · intro s
    rw [← s.depth_toDocument]
    exact Json.decodeSound_write s.plain_toDocument fun h =>
      Segment.read_toDocument (s.depth_toDocument.symm.trans_le h)

end QuerySnippet
