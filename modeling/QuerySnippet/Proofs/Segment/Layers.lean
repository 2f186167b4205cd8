/-
Type names behind collections.

A search takes a collection off in two places, from the type of the segment and
from the type of the property that it comes to, and takes off one in each
(`unwrap_inCollections`). So a type in two collections is still in one when its
properties would be looked at, and shows none of them (`find_of_inCollections`).
-/
import QuerySnippet.Proofs.Edm.Layers
import QuerySnippet.Proofs.Segment.Lookup

namespace QuerySnippet

namespace EdmType

/-- A type with a number of collections around it. -/
def inCollections (t : EdmType) : Nat → EdmType
  | 0 => t
  | count + 1 => .collection (t.inCollections count)

/-- The type is no collection and has this qualified name. -/
inductive Named : EdmType → String → Prop
  | structured (schema name : String) (properties : List (String × EdmType)) :
      Named (.structured schema name properties) (qualified schema name)
  | scalar (fullName : String) : Named (.scalar fullName) fullName

variable {t : EdmType} {name : String}

theorem Named.display_eq (h : t.Named name) : t.display = name := by
  cases h <;> rfl

theorem Named.layers_eq (h : t.Named name) : t.layers = 0 := by
  cases h <;> rfl

theorem Named.innermost_eq (h : t.Named name) : t.innermost = t := by
  cases h <;> rfl

theorem Named.unwrap_eq (h : t.Named name) : t.unwrap = t := by
  cases h <;> rfl

theorem layers_inCollections (t : EdmType) :
    ∀ count, (t.inCollections count).layers = t.layers + count
  | 0 => rfl
  | count + 1 => congrArg (· + 1) (layers_inCollections t count)

theorem innermost_inCollections (t : EdmType) :
    ∀ count, (t.inCollections count).innermost = t.innermost
  | 0 => rfl
  | count + 1 => innermost_inCollections t count

/-- A collection is taken off if there is one. -/
theorem Named.unwrap_inCollections (h : t.Named name) (count : Nat) :
    (t.inCollections count).unwrap = t.inCollections (count - 1) := by
  cases count with
  | zero => exact h.unwrap_eq
  | succ count => rfl

theorem Named.display_inCollections (h : t.Named name) (count : Nat) :
    (t.inCollections count).display = String.join (List.replicate count "Collection(") ++ name ++
      String.join (List.replicate count ")") := by
  have hclosing : (List.replicate count [')']).flatten = List.replicate count ')' :=
    List.flatten_replicate_singleton
  rw [← String.toList_inj, toList_display, layers_inCollections, innermost_inCollections,
    h.layers_eq, h.innermost_eq, h.display_eq, Nat.zero_add, String.toList_append,
    String.toList_append, toList_join_replicate, toList_join_replicate]
  exact congrArg (_ ++ ·) hclosing.symm

theorem Named.display_inCollections_ne_empty (h : t.Named name) (hne : name ≠ "") (count : Nat) :
    (t.inCollections count).display ≠ "" := by
  rw [h.display_inCollections]
  simp [hne]

/-- A lookup by the owner's name leads to the type with a collection less. -/
theorem Named.lookup_of_owner (h : t.Named name) (hne : name ≠ "") (count : Nat)
    {owner identifier : String} (howner : Text.foldCase owner = Text.foldCase identifier) :
    (t.inCollections count).lookup owner identifier =
      some (t.inCollections (count - 1)).display := by
  rw [lookup_eq_some_iff]
  refine ⟨h.display_inCollections_ne_empty hne _, _, ?_, rfl⟩
  exact (denotes_of_owner howner).2 (h.unwrap_inCollections count)

/-- A type in several collections has no properties to show. -/
theorem Named.lookup_of_two_le (h : t.Named name) {count : Nat} (hcount : 2 ≤ count)
    {owner identifier : String} (howner : Text.foldCase owner ≠ Text.foldCase identifier) :
    (t.inCollections count).lookup owner identifier = none := by
  rw [lookup_eq_none_iff]
  rintro text ⟨-, u, hdenotes, -⟩
  obtain ⟨found, hfound, -⟩ := (denotes_of_ne howner).1 hdenotes
  -- With one collection off it is a collection still, and a collection declares nothing.
  obtain ⟨less, rfl⟩ : ∃ less, count = less + 2 := ⟨count - 2, by omega⟩
  rw [h.unwrap_inCollections] at hfound
  cases hfound

/-- A lookup by the name of a property leads to its type with a collection less. -/
theorem Named.lookup_of_property (h : t.Named name) {count : Nat} (hcount : count ≤ 1)
    {owner identifier : String} (howner : Text.foldCase owner ≠ Text.foldCase identifier)
    {found : EdmType} {inner : String} {depth : Nat}
    (hdeclares : t.Declares identifier (found.inCollections depth)) (hfound : found.Named inner)
    (hinner : inner ≠ "") :
    (t.inCollections count).lookup owner identifier =
      some (found.inCollections (depth - 1)).display := by
  have hbase : (t.inCollections count).unwrap = t := by
    rw [h.unwrap_inCollections, Nat.sub_eq_zero_of_le hcount, inCollections]
  rw [lookup_eq_some_iff]
  refine ⟨hfound.display_inCollections_ne_empty hinner _, _, ?_, rfl⟩
  refine (denotes_of_ne howner).2 ⟨found.inCollections depth, ?_, hfound.unwrap_inCollections depth⟩
  rw [hbase, property?_eq_some_iff]
  exact hdeclares

end EdmType

namespace Segment

/-- The segment is a navigation property or an entity set of this type. -/
inductive OfType (type : EdmType) : Segment → Prop
  | navigationProperty (name : String) : OfType type (.navigationProperty name type)
  | entitySet (name : String) : OfType type (.entitySet name type)

theorem OfType.find_eq {type : EdmType} {s : Segment} (h : OfType type s) (identifier : String) :
    s.find identifier = type.lookup s.identifier identifier := by
  cases h <;> rfl

/-- **Exactly one collection is taken off**, from the type of a segment and from that of a property.
A type in two collections or more hides its properties. -/
theorem find_of_inCollections {t : EdmType} {name : String} (h : t.Named name) (hne : name ≠ "")
    (count : Nat) :
    (t.inCollections count).display = String.join (List.replicate count "Collection(") ++ name ++
      String.join (List.replicate count ")") ∧
    ∀ s, OfType (t.inCollections count) s → ∀ identifier,
      (Text.foldCase s.identifier = Text.foldCase identifier →
        s.find identifier = some (t.inCollections (count - 1)).display) ∧
      (Text.foldCase s.identifier ≠ Text.foldCase identifier → 2 ≤ count →
        s.find identifier = none) ∧
      (Text.foldCase s.identifier ≠ Text.foldCase identifier → count ≤ 1 →
        ∀ (found : EdmType) (inner : String) (depth : Nat),
          t.Declares identifier (found.inCollections depth) → found.Named inner → inner ≠ "" →
          s.find identifier = some (found.inCollections (depth - 1)).display) := by
  refine ⟨h.display_inCollections count, fun s hs identifier => ?_⟩
  rw [hs.find_eq]
  refine ⟨fun howner => ?_, fun howner hcount => ?_, fun howner hcount => ?_⟩
  · exact h.lookup_of_owner hne count howner
  · exact h.lookup_of_two_le hcount howner
  · intro found inner depth hdeclares hfound hinner
    exact h.lookup_of_property hcount howner hdeclares hfound hinner

/-- A grid in one collection and in two: the name in another case, and a property whose type is
in two collections itself. -/
theorem find_of_inCollections_of_grid :
    let cells := ("cells", (EdmType.scalar "Edm.Double").inCollections 2)
    let grid := EdmType.structured "contoso" "grid" [("id", .scalar "Edm.Guid"), cells]
    let once := Segment.entitySet "Grids" (grid.inCollections 1)
    let twice := Segment.navigationProperty "Grids" (grid.inCollections 2)
    once.find "gRIDS" = some "contoso.grid" ∧ once.find "cells" = some "Collection(Edm.Double)" ∧
      twice.find "gRIDS" = some "Collection(contoso.grid)" ∧ twice.find "cells" = none := by
  intro cells grid once twice
  have hgrid : grid.Named "contoso.grid" := .structured "contoso" "grid" _
  have hdouble : (EdmType.scalar "Edm.Double").Named "Edm.Double" := .scalar _
  have hcells : grid.Declares "cells" ((EdmType.scalar "Edm.Double").inCollections 2) :=
    ⟨"contoso", "grid", [("id", .scalar "Edm.Guid")], [], rfl, by decide⟩
  have hother : Text.foldCase "Grids" ≠ Text.foldCase "cells" := by decide
  have hsame : Text.foldCase "Grids" = Text.foldCase "gRIDS" := by decide
  obtain ⟨-, hone⟩ := find_of_inCollections hgrid (by decide) 1
  obtain ⟨-, htwo⟩ := find_of_inCollections hgrid (by decide) 2
  have honce : OfType (grid.inCollections 1) once := .entitySet "Grids"
  have htwice : OfType (grid.inCollections 2) twice := .navigationProperty "Grids"
  refine ⟨(hone once honce "gRIDS").1 hsame, ?_, (htwo twice htwice "gRIDS").1 hsame, ?_⟩
  · exact (hone once honce "cells").2.2 hother (by decide) _ _ 2 hcells hdouble (by decide)
  · exact (htwo twice htwice "cells").2.1 hother (by decide)

end Segment

end QuerySnippet
