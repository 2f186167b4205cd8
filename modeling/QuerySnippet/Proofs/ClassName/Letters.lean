/-
A class name has the letters and digits of the name it is made of.

Of the name of a type only what stands behind the last dot counts, with a collection
around the name taken off before (`unwrapped_iff`, `lastPart_iff`). From ASCII text the
class name takes all letters and digits, in order and with no change but in their case,
and nothing else (`className_keeps_letters`).
-/
import QuerySnippet.Proofs.ClassName
import QuerySnippet.Proofs.Edm.Display
import QuerySnippet.Proofs.Text.Ascii

namespace QuerySnippet

/-- What is left of a name when a collection that is written around it is taken off. -/
inductive Unwrapped (name : List Char) : List Char → Prop
  | collection {inner} : name = collectionOpening ++ inner ++ [')'] → Unwrapped name inner
  | plain : ¬ WrittenAsCollection name → Unwrapped name name

/-- The last part of a name between its dots. -/
inductive LastPart (name : List Char) : List Char → Prop
  | whole : '.' ∉ name → LastPart name name
  | behind {before part} : '.' ∉ part → name = before ++ '.' :: part → LastPart name part

variable {name inner part : List Char}

/-! ## One collection -/

/-- One collection is taken off a name, when both of its ends are there. -/
theorem unwrapped_iff : Unwrapped name inner ↔ unwrapName name = inner := by
  constructor
  · rintro (rfl | hplain)
    · exact unwrapName_collection inner
    · exact unwrapName_of_not_written hplain
  · rintro rfl
    by_cases h : WrittenAsCollection name
    · obtain ⟨inner, rfl⟩ := h
      rw [unwrapName_collection]
      exact .collection rfl
    · rw [unwrapName_of_not_written h]
      exact .plain h

/-! ## The last part -/

theorem exists_lastPart (name : List Char) : ∃ part, LastPart name part := by
  induction name with
  | nil => exact ⟨[], .whole List.not_mem_nil⟩
  | cons c name ih =>
    obtain ⟨part, hwhole | ⟨hpart, rfl⟩⟩ := ih
    · by_cases hdot : c = '.'
      · subst hdot
        exact ⟨name, .behind hwhole (List.nil_append ('.' :: name)).symm⟩
      · exact ⟨c :: name, .whole (by simp [hwhole, Ne.symm hdot])⟩
    · exact ⟨part, .behind hpart (List.cons_append ..).symm⟩

theorem LastPart.lastDotted_eq (h : LastPart name part) : lastDotted name = part := by
  cases h with
  | whole hnone => exact lastDotted_of_notMem hnone
  | @behind before _ hnone hname =>
    have hbefore : lastDotted (before ++ ['.']) = [] := by simp [lastDotted]
    rw [hname, ← List.singleton_append, ← List.append_assoc, lastDotted_append_of_notMem _ hnone,
      hbefore, List.nil_append]

theorem lastPart_iff : LastPart name part ↔ lastDotted name = part := by
  refine ⟨LastPart.lastDotted_eq, ?_⟩
  rintro rfl
  obtain ⟨part, hpart⟩ := exists_lastPart name
  exact hpart.lastDotted_eq.symm ▸ hpart

/-! ## Class names -/

theorem className_eq {name : String} (hinner : Unwrapped name.toList inner)
    (hpart : LastPart inner part) : className name = String.ofList (Text.pascalCase part) := by
  rw [className, unwrapped_iff.1 hinner, lastPart_iff.1 hpart]

theorem ascii_lastPart (h : Text.Ascii name) (hinner : Unwrapped name inner)
    (hpart : LastPart inner part) : Text.Ascii part := by
  have hinside : inner ⊆ name := by
    cases hinner with
    | collection hname => simp [hname]
    | plain _ => exact List.Subset.refl _
  have hbehind : part ⊆ inner := by
    cases hpart with
    | whole _ => exact List.Subset.refl _
    | behind _ hname => simp [hname]
  exact fun c hc => h c (hinside (hbehind hc))

/-- **A class name keeps the letters and digits of a name**, those behind its last dot, with one
collection around the name taken off: in order and each of them once, with only their case changed.
Nothing else gets into it, and it does not begin with a lower case letter. -/
theorem className_keeps_letters (name : String) (h : Text.Ascii name.toList) :
    ∃ inner part, (∀ i, Unwrapped name.toList i ↔ i = inner) ∧ (∀ p, LastPart inner p ↔ p = part) ∧
      (∀ c ∈ (className name).toList, c.isAlphanum = true) ∧
      (∀ c ∈ (className name).toList.head?, c.isLower = false) ∧
      (className name).toList.map Char.toLower = (part.filter Char.isAlphanum).map Char.toLower ∧
      ∀ (name' : String) (inner' : List Char), Unwrapped name'.toList inner' →
        LastPart inner' part → className name' = className name := by
  obtain ⟨inner, hinner⟩ : ∃ inner, Unwrapped name.toList inner := ⟨_, unwrapped_iff.2 rfl⟩
  obtain ⟨part, hpart⟩ := exists_lastPart inner
  have hascii : Text.Ascii part := ascii_lastPart h hinner hpart
  have hname : (className name).toList = Text.pascalCase part := by
    rw [className_eq hinner hpart, String.toList_ofList]
  refine ⟨inner, part, fun i => ?_, fun p => ?_, ?letters, ?first, ?same, ?before⟩
  · rw [unwrapped_iff, unwrapped_iff.1 hinner, eq_comm]
  · rw [lastPart_iff, lastPart_iff.1 hpart, eq_comm]
  case letters =>
    intro c hc
    rw [hname] at hc
    exact Text.isAlphanum_of_mem_pascalCase hascii hc
  case first =>
    rw [hname]
    exact Text.isLower_head?_pascalCase hascii
  case same =>
    rw [hname]
    exact Text.map_toLower_pascalCase hascii
  case before =>
    intro name' inner' hinner' hpart'
    rw [className_eq hinner' hpart', className_eq hinner hpart]

/-- Words that are told apart by their case alone, by a digit and by underscores, in a name with
dots inside a collection. -/
theorem className_keeps_letters_of_mixed :
    let name := "Collection(contoso.v1.XMLHttp__a1B_(c)"
    (∀ c ∈ (className name).toList, c.isAlphanum = true) ∧
      (∀ c ∈ (className name).toList.head?, c.isLower = false) ∧
      (className name).toList.map Char.toLower = "xmlhttpa1bc".toList ∧
      className "other.XMLHttp__a1B_(c" = className name := by
  intro name
  let part := "XMLHttp__a1B_(c".toList
  obtain ⟨inner, last, hinner, hlast, hletters, hfirst, hsame, hbefore⟩ :=
    className_keeps_letters name (by decide)
  have hpart (before : String) : LastPart (before.toList ++ '.' :: part) part :=
    .behind (by decide) rfl
  have hwritten : name.toList =
      collectionOpening ++ ("contoso.v1".toList ++ '.' :: part) ++ [')'] := by decide +kernel
  have hother : "other.XMLHttp__a1B_(c".toList = "other".toList ++ '.' :: part := by decide +kernel
  have hplain : ¬ WrittenAsCollection ("other".toList ++ '.' :: part) := by
    rintro ⟨rest, hrest⟩
    exact absurd (List.cons.inj hrest).1 (by decide)
  cases (hinner _).1 (.collection hwritten)
  cases (hlast _).1 (hpart "contoso.v1")
  exact ⟨hletters, hfirst, hsame, hbefore _ _ (hother ▸ .plain hplain) (hpart "other")⟩

end QuerySnippet
