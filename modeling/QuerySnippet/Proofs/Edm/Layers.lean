/-
Types inside collections.

The text of a type is the name of its innermost type, between as many openings and
closing parentheses as there are collections around it (`EdmType.toList_display`).
-/
import QuerySnippet.ClassName
import QuerySnippet.Edm.Basic

namespace QuerySnippet

namespace EdmType

/-- The number of collections around the innermost type. -/
def layers : EdmType → Nat
  | collection element => element.layers + 1
  | _ => 0

/-- The type inside all collections. -/
def innermost : EdmType → EdmType
  | collection element => element.innermost
  | t => t

end EdmType

/-- A name with a number of collections written around it. -/
def wrapped (count : Nat) (name : List Char) : List Char :=
  (List.replicate count collectionOpening).flatten ++ name ++ List.replicate count ')'

theorem wrapped_zero (name : List Char) : wrapped 0 name = name := by
  simp [wrapped]

theorem wrapped_succ (count : Nat) (name : List Char) :
    wrapped (count + 1) name = collectionOpening ++ wrapped count name ++ [')'] := by
  have hclosing : List.replicate (count + 1) ')' = List.replicate count ')' ++ [')'] :=
    List.replicate_succ'
  rw [wrapped, wrapped, hclosing, List.replicate_succ, List.flatten_cons]
  simp only [List.append_assoc]

/-- The name is written like that of a collection. -/
def WrittenAsCollection (name : List Char) : Prop :=
  ∃ inner, name = collectionOpening ++ inner ++ [')']

theorem writtenAsCollection_wrapped_succ (count : Nat) (name : List Char) :
    WrittenAsCollection (wrapped (count + 1) name) :=
  ⟨wrapped count name, wrapped_succ count name⟩

theorem not_writtenAsCollection {name : List Char} (h : '(' ∉ name) :
    ¬ WrittenAsCollection name := by
  rintro ⟨inner, rfl⟩
  have hopening : '(' ∈ collectionOpening := by decide
  simp [hopening] at h

theorem toList_join_replicate (count : Nat) (word : String) :
    (String.join (List.replicate count word)).toList =
      (List.replicate count word.toList).flatten := by
  rw [String.toList_join, List.flatMap_def, List.map_replicate]

theorem EdmType.toList_display : ∀ t : EdmType,
    t.display.toList = wrapped t.layers t.innermost.display.toList
  | collection element => by
    have ih := toList_display element
    rw [layers, innermost, wrapped_succ, ← ih, display, String.toList_append,
      String.toList_append]
    rfl
  | structured _ _ _ => (wrapped_zero _).symm
  | scalar _ => (wrapped_zero _).symm

theorem EdmType.layers_eq_zero_iff {t : EdmType} : t.layers = 0 ↔ t.element? = none := by
  cases t <;> simp [layers, element?]

end QuerySnippet
