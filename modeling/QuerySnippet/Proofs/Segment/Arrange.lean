/-
Many documents of one segment.

Segments have their tags and their types inside them, and so have operations: their
readers follow a shape as well (`Segment.keeps_read`). So a document of a segment or of a
type can be changed again and again: as long as it stays sound, every text of it is read
as it was at first (`ofJson_of_revisions`).
-/
import Mathlib.Logic.Relation
import QuerySnippet.Proofs.Edm.Arrange
import QuerySnippet.Proofs.Segment.RoundTrip

namespace QuerySnippet

/-! ## Segments -/

/-- The members of an operation. -/
def Shape.operationMembers : List (String × Shape) :=
  [("name", .plain), ("parameters", .list .named)]

/-- A segment. -/
def Shape.segment : Shape := .tagged [
  ("navigation_property", [("property", .named)]),
  ("entity_set", [("name", .plain), ("type", .type)]),
  ("operation", [("operations", .list (.record operationMembers))]),
  ("other", [("identifier", .plain)])]

theorem Operation.keeps_read : Keeps (.record Shape.operationMembers) record.read := by
  have hfields : record.fields.Pairwise Field.Independent := by
    simp [record, Field.independent_of]
  have hparameters := (EdmType.keepsRecord_named "struct OperationParameter"
    EdmType.keeps_readPart).keeps.readList
  exact (Record.keepsRecord hfields
    (.cons ⟨rfl, keeps_readText.field⟩ (.cons ⟨rfl, hparameters.field⟩ .nil))).keeps

theorem Segment.keeps_read : Keeps .segment read := by
  have hproperty := (EdmType.keepsRecord_named "struct NavigationProperty"
    EdmType.keeps_readPart).keeps
  refine Tagged.keeps_read rfl
    (.cons ⟨rfl, ?_⟩ (.cons ⟨rfl, ?_⟩ (.cons ⟨rfl, ?_⟩ (.cons ⟨rfl, ?_⟩ .nil))))
  · exact (Record.keepsRecord (r := navigationRecord) (List.pairwise_singleton _ _)
      (.cons ⟨rfl, hproperty.field⟩ .nil)).map id
  · exact (EdmType.keepsRecord_named _ EdmType.keeps_readPart).map _
  · exact (Record.keepsRecord (r := operationRecord) (List.pairwise_singleton _ _)
      (.cons ⟨rfl, Operation.keeps_read.readList.field⟩ .nil)).map id
  · exact (Record.keepsRecord (r := otherRecord) (List.pairwise_singleton _ _)
      (.cons ⟨rfl, keeps_readText.field⟩ .nil)).map id

/-! ## Any number of changes -/

/-- Any number of changes to a document of this shape. -/
abbrev Revisions (shape : Shape) := Relation.ReflTransGen (Revision shape)

variable {α : Type} {shape : Shape} {read : Document → Except Fault α} {d d' : Document} {a : α}

theorem Keeps.revisions (hkeeps : Keeps shape read) (h : Revisions shape d d')
    (ha : read d = .ok a) : read d' = .ok a := by
  induction h with
  | refl => exact ha
  | tail _ hstep ih => exact hkeeps hstep ih

theorem Keeps.decodeSound {s s' : String} (hkeeps : Keeps shape read)
    (hs : Json.parse s = some d) (hs' : Json.parse s' = some d') (hsound : d'.isSound)
    (h : Revisions shape d d') (ha : Json.decodeSound read s = .ok a) :
    Json.decodeSound read s' = .ok a :=
  (Json.decodeSound_eq_ok_iff hs').2
    ⟨hsound, hkeeps.revisions h ((Json.decodeSound_eq_ok_iff hs).1 ha).2⟩

/-- **Types and segments are read from every arrangement of their documents**: the members of
all objects in any order, the tag among them, and with members that nobody asks for. -/
theorem ofJson_of_revisions {s s' : String} {d d' : Document} (hs : Json.parse s = some d)
    (hs' : Json.parse s' = some d') (hsound : d'.isSound) :
    (∀ t, Revisions .type d d' → EdmType.ofJson s = .ok t → EdmType.ofJson s' = .ok t) ∧
    ∀ segment, Revisions .segment d d' → Segment.ofJson s = .ok segment →
      Segment.ofJson s' = .ok segment :=
  ⟨fun _ => EdmType.keeps_read.decodeSound hs hs' hsound,
    fun _ => Segment.keeps_read.decodeSound hs hs' hsound⟩

/-- A type and a segment whose tags come to stand last, with members that nobody asks for. -/
theorem ofJson_of_revisions_tag_last :
    EdmType.ofJson (Json.write (.object [
        ("namespace", .text ""),
        ("name", .text "A"),
        ("declared_properties", .array [.object [("name", .text "p"), ("type", .object [
          ("full_name", .text "S"), ("kind", .text "scalar"), ("note", .null)])]]),
        ("kind", .text "structured")])) =
      .ok (.structured "" "A" [("p", .scalar "S")]) ∧
    Segment.ofJson (Json.write (.object [
        ("identifier", .text "$count"),
        ("name", .array []),
        ("kind", .text "other")])) =
      .ok (.other "$count") := by
  constructor
  · have hparse := Json.parse_write
      (EdmType.plain_toDocument (.structured "" "A" [("p", .scalar "S")]))
    -- the tag of the inner type, a member behind it, then the tag of the outer type
    have h : Revisions .type (EdmType.structured "" "A" [("p", .scalar "S")]).toDocument _ :=
      .head (.object (.inside [_, _, _] [] (.item [] [] (.object (.inside [_] []
        (.object (.reorder (.swap _ _ _))))))))
      (.head (.object (.inside [_, _, _] [] (.item [] [] (.object (.inside [_] []
        (.object (.add [_, _] .null [] (by decide : "note" ≠ _) (by decide))))))))
      (.single (.object (.reorder (List.perm_append_singleton _ [_, _, _]).symm))))
    refine (ofJson_of_revisions hparse (Json.parse_write ?_) (by decide)).1 _ h
      ((Json.decodeSound_eq_ok_iff hparse).2 ⟨by decide, rfl⟩)
    simp [Document.Plain, Document.PlainMembers, Document.PlainItems]
  · have hparse := Json.parse_write (Segment.plain_toDocument (.other "$count"))
    have h : Revisions .segment (Segment.other "$count").toDocument _ :=
      .head (.object (.reorder (.swap _ _ _)))
      (.single (.object (.add [_] (.array []) [_] (by decide : "name" ≠ _) (by decide))))
    refine (ofJson_of_revisions hparse (Json.parse_write ?_) (by decide)).2 _ h
      ((Json.decodeSound_eq_ok_iff hparse).2 ⟨by decide, rfl⟩)
    simp [Document.Plain, Document.PlainMembers, Document.PlainItems]

end QuerySnippet
