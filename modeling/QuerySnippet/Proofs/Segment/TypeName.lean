/-
Blank type names.

What a segment finds is never blank. A class name is made of the letters and numbers in
the last dotted part of what is found, and that part may have none, as in `contoso._`:
the class name is blank then, though a type has been found. This is the only way to a
blank type name (`typeName_eq_empty_iff`).
-/
import QuerySnippet.Proofs.Segment.Lookup
import QuerySnippet.Proofs.Text.Pascal

namespace QuerySnippet

/-- A class name is blank when the part it is made of has neither letter nor number. -/
theorem className_eq_empty_iff {name : String} :
    className name = "" ↔
      ∀ c ∈ lastDotted (unwrapName name.toList), Text.isAlphanumeric c = false := by
  rw [← Text.pascalCase_eq_nil_iff, className, ← String.toList_inj, String.toList_ofList]
  rfl

namespace Segment

theorem typeName_plain_ne_empty (s : Segment) (identifier : String) :
    s.typeName false identifier ≠ some "" := by
  have hplain : s.typeName false identifier = s.find identifier := by simp [typeName]
  rw [hplain]
  exact find_ne_empty s identifier

/-- **A type name is blank only as a class name**, and then exactly when the last dotted part of the
name that is found has neither letter nor number. -/
theorem typeName_eq_empty_iff (s : Segment) (classNames : Bool) (identifier : String) :
    s.typeName classNames identifier = some "" ↔
      classNames = true ∧ ∃ name, s.find identifier = some name ∧
        ∀ c ∈ lastDotted (unwrapName name.toList), Text.isAlphanumeric c = false := by
  cases classNames with
  | false => simp [typeName_plain_ne_empty]
  | true => simp only [typeName, if_true, Option.map_eq_some_iff, className_eq_empty_iff, true_and]

/-- The type `contoso._` is found, and its class name is blank. -/
theorem typeName_eq_empty_of_underscore :
    let items := Segment.entitySet "items" (.scalar "contoso._")
    items.find "items" = some "contoso._" ∧ items.typeName true "items" = some "" ∧
      ¬ ∀ (s : Segment) (classNames : Bool) (identifier : String),
        s.typeName classNames identifier ≠ some "" := by
  intro items
  have hfind : items.find "items" = some "contoso._" := by decide +kernel
  have hblank : items.typeName true "items" = some "" := by decide +kernel
  exact ⟨hfind, hblank, fun hnever => hnever items true "items" hblank⟩

end Segment

end QuerySnippet
