/-
Types come back from JSON as they were, unless they are nested too deep.

`EdmType.nest` counts the arrays and objects inside one another in the text of
a type: a list of properties that is empty is still an array, and one that is
not puts an object around every type in it. A type is read back exactly when
that count is one that the reading of JSON allows.
-/
import QuerySnippet.Edm.Json
import QuerySnippet.Proofs.Document.Record
import QuerySnippet.Proofs.Json.RoundTrip

namespace QuerySnippet.EdmType

/-! ## Nesting -/

mutual

/-- The number of arrays and objects inside one another in the text of a type. -/
def nest : EdmType → Nat
  | collection element => 1 + element.nest
  | structured _ _ properties => if properties.isEmpty then 2 else 3 + largestNest properties
  | scalar _ => 1

/-- The largest such number among the types of properties. -/
def largestNest : List (String × EdmType) → Nat
  | [] => 0
  | (_, type) :: properties => max type.nest (largestNest properties)

end

theorem nest_le_largestNest {property : String × EdmType} :
    ∀ {properties : List (String × EdmType)},
      property ∈ properties → property.2.nest ≤ largestNest properties
  | other :: properties, h => by
    rw [largestNest]
    rcases List.mem_cons.1 h with rfl | h
    · exact Nat.le_max_left _ _
    · exact Nat.le_trans (nest_le_largestNest h) (Nat.le_max_right _ _)

theorem nest_pos (t : EdmType) : 0 < t.nest := by
  cases t with
  | collection element => rw [nest]; omega
  | structured schema name properties => rw [nest]; split <;> omega
  | scalar fullName => rw [nest]; omega

/-- The types that stand directly inside a type. -/
def parts : EdmType → List EdmType
  | collection element => [element]
  | structured _ _ properties => properties.map (·.2)
  | scalar _ => []

theorem nest_lt_of_mem_parts {s t : EdmType} (h : s ∈ t.parts) : s.nest < t.nest := by
  cases t with
  | collection element =>
    obtain rfl : s = element := by simpa [parts] using h
    rw [nest]
    omega
  | structured schema name properties =>
    obtain ⟨property, hmem, rfl⟩ := List.mem_map.1 (show s ∈ properties.map (·.2) from h)
    have hle := nest_le_largestNest hmem
    have hne : properties.isEmpty = false := by
      cases properties with
      | nil => cases hmem
      | cons _ _ => rfl
    rw [nest, hne]
    simp only [Bool.false_eq_true, if_false]
    omega
  | scalar fullName => cases h

/-! ## The document of a type -/

theorem propertyDocuments_eq (properties : List (String × EdmType)) :
    propertyDocuments properties =
      properties.map fun (name, type) => namedDocument name type.toDocument := by
  induction properties with
  | nil => rfl
  | cons property properties ih => rw [propertyDocuments, ih, List.map_cons]

theorem depth_namedDocument (name : String) (type : Document) :
    (namedDocument name type).depth = type.depth + 1 := by
  simp [namedDocument, Document.depth, Document.membersDepth]

mutual

/-- The depth of a type's document is its nesting. -/
theorem depth_toDocument : ∀ t : EdmType, t.toDocument.depth = t.nest
  | collection element => by
    simp only [toDocument, Document.depth, Document.membersDepth, depth_toDocument element, nest]
    omega
  | structured schema name properties => by
    simp only [toDocument, Document.depth, Document.membersDepth,
      itemsDepth_propertyDocuments properties, nest]
    split <;> omega
  | scalar fullName => by
    simp only [toDocument, Document.depth, Document.membersDepth, nest]
    omega

theorem itemsDepth_propertyDocuments : ∀ properties : List (String × EdmType),
    Document.itemsDepth (propertyDocuments properties) =
      if properties.isEmpty then 0 else 1 + largestNest properties
  | [] => rfl
  | (name, type) :: properties => by
    have hrest := itemsDepth_propertyDocuments properties
    rw [propertyDocuments, Document.itemsDepth, depth_namedDocument, depth_toDocument type, hrest,
      largestNest]
    cases properties with
    | nil => simp [largestNest]; omega
    | cons _ _ => simp; omega

end

theorem plain_namedDocument {name : String} {type : Document} (h : type.Plain) :
    (namedDocument name type).Plain :=
  ⟨trivial, h, trivial⟩

mutual

theorem plain_toDocument : ∀ t : EdmType, t.toDocument.Plain
  | collection element => ⟨trivial, plain_toDocument element, trivial⟩
  | structured _ _ properties =>
    ⟨trivial, trivial, trivial, plain_propertyDocuments properties, trivial⟩
  | scalar _ => ⟨trivial, trivial, trivial⟩

theorem plain_propertyDocuments : ∀ properties : List (String × EdmType),
    Document.PlainItems (propertyDocuments properties)
  | [] => trivial
  | (_, type) :: properties =>
    ⟨plain_namedDocument (plain_toDocument type), plain_propertyDocuments properties⟩

end

/-! ## Reading a type -/

-- The names of the fields are written out because `readType` is a variable, so that `decide`
-- cannot evaluate the records that hold it.

/-- A name with its type is read as it is written, when its type is. -/
theorem ofMembers_named {readType : Document → Except Fault EdmType} {expected name : String}
    {type : EdmType} (h : readType type.toDocument = .ok type) :
    (named expected readType).ofMembers [("name", .text name), ("type", type.toDocument)] =
      .ok (name, type) :=
  Record.ofMembers_of_written (r := named expected readType)
    (show ["name", "type"].Nodup by decide)
    (.cons (Field.read_of rfl) (.cons (Field.read_of h) .nil)) rfl

theorem readList_named {readType : Document → Except Fault EdmType} (expected : String)
    {properties : List (String × EdmType)}
    (h : ∀ property ∈ properties, readType property.2.toDocument = .ok property.2) :
    (Document.array (propertyDocuments properties)).readList (named expected readType).read =
      .ok properties := by
  rw [propertyDocuments_eq]
  exact Document.readList_array fun property hmem => ofMembers_named (h property hmem)

/-- A type is read as it is written, when the types inside it are. -/
theorem read_tagged {readType : Document → Except Fault EdmType} (inside : Bool) {t : EdmType}
    (h : ∀ s ∈ t.parts, readType s.toDocument = .ok s) :
    (tagged readType).read inside t.toDocument = .ok t := by
  cases t with
  | collection element =>
    have hrecord : (collectionRecord readType).ofMembers
        [("element_type", element.toDocument)] = .ok (collection element) :=
      Record.ofMembers_of_written (r := collectionRecord readType)
        (show ["element_type"].Nodup by decide)
        (.cons (Field.read_of (h element (by simp [parts]))) .nil) rfl
    exact Tagged.read_object inside id rfl (by simp [Tagged.tagName]) hrecord
  | structured schema name properties =>
    have hproperties := readList_named "struct EdmProperty"
      fun property (hmem : property ∈ properties) => h property.2 (List.mem_map_of_mem hmem)
    have hrecord : (structuredRecord readType).ofMembers
        [("namespace", .text schema), ("name", .text name),
          ("declared_properties", .array (propertyDocuments properties))] =
          .ok (structured schema name properties) :=
      Record.ofMembers_of_written (r := structuredRecord readType)
        (show ["namespace", "name", "declared_properties"].Nodup by decide)
        (.cons (Field.read_of rfl) (.cons (Field.read_of rfl)
          (.cons (Field.read_of hproperties) .nil))) rfl
    exact Tagged.read_object inside id rfl (by simp [Tagged.tagName]) hrecord
  | scalar fullName =>
    have hrecord : scalarRecord.ofMembers [("full_name", .text fullName)] = .ok (scalar fullName) :=
      Record.ofMembers_of_written (by decide) (.cons (Field.read_of rfl) .nil) rfl
    exact Tagged.read_object inside id rfl (by simp [Tagged.tagName]) hrecord

theorem readInside_toDocument : ∀ (limit : Nat) {t : EdmType}, t.nest ≤ limit →
    readInside limit t.toDocument = .ok t
  | 0, t, h => absurd t.nest_pos (by omega)
  | limit + 1, t, h => by
    rw [readInside]
    refine read_tagged true fun s hs => readInside_toDocument limit ?_
    have := nest_lt_of_mem_parts hs
    omega

theorem readPart_toDocument {t : EdmType} (h : t.nest ≤ Document.maxDepth) :
    readPart t.toDocument = .ok t :=
  readInside_toDocument depthLimit (Nat.le_succ_of_le h)

theorem read_toDocument {t : EdmType} (h : t.nest ≤ Document.maxDepth) :
    read t.toDocument = .ok t :=
  read_tagged false fun _ hs => readPart_toDocument (Nat.le_trans (nest_lt_of_mem_parts hs).le h)

end QuerySnippet.EdmType
