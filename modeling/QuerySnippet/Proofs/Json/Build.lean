/-
What a builder makes of tokens.

A builder that stands where a value may stand has the value complete when it has read the
tokens of it, whatever is open around it (`Completes`). The same is said of items and of
members, which stay on top of the open array or object, last first. So the tokens of a
document are put together as the document is, and at the top they spell it
(`ofTokens_of_completes`).
-/
import Mathlib.Data.List.Basic
import QuerySnippet.Json.Parse

namespace QuerySnippet.Json

theorem mapM_name_map_some (members : List (String × Document)) :
    ((members.map fun (name, value) => (some name, value)).mapM fun (name, value) =>
      name.map (·, value)) = some members := by
  induction members with
  | nil => rfl
  | cons member members ih =>
    rw [List.map_cons, List.mapM_cons, ih]
    rfl

/-- The object that members whose names are all readable make. -/
theorem objectOf_map_some (members : List (String × Document)) :
    objectOf (members.map fun (name, value) => (some name, value)) = .object members := by
  rw [objectOf, mapM_name_map_some]

namespace Builder

/-- Where a value may stand, the tokens complete the document. -/
def Completes (ts : List Token) (d : Document) : Prop :=
  ∀ frames, ts.foldlM step ⟨.value, frames⟩ = complete d frames

/-- In an open array, the tokens complete these items one after the other. -/
def CompletesItems (ts : List Token) (items : List Document) : Prop :=
  ∀ read frames, ts.foldlM step ⟨.value, .array read :: frames⟩ =
    some ⟨.separator, .array (items.reverse ++ read) :: frames⟩

/-- In an open object, the tokens complete these members one after the other. -/
def CompletesMembers (ts : List Token) (members : List (Option String × Document)) : Prop :=
  ∀ read frames, ts.foldlM step ⟨.name, .object read :: frames⟩ =
    some ⟨.separator, .object (members.reverse ++ read) :: frames⟩

variable {ts ts' : List Token} {d : Document} {items items' : List Document}
  {members members' : List (Option String × Document)}

theorem completes_word (d : Document) : Completes [.word d] d := fun frames => by
  simp [step, begin]

theorem completes_text (s : String) : Completes [.text (some s)] (.text s) := fun frames => by
  simp [step, begin]

theorem completes_surrogate : Completes [.text none] (.unreadable .loneSurrogate) := by
  intro frames
  simp [step, begin]

/-! ## Items -/

theorem Completes.item (h : Completes ts d) : CompletesItems ts [d] := fun read frames => by
  rw [h]
  rfl

theorem CompletesItems.append (h : CompletesItems ts items) (h' : CompletesItems ts' items') :
    CompletesItems (ts ++ .comma :: ts') (items ++ items') := fun read frames => by
  rw [List.foldlM_append, h]
  simpa [step, goOn] using h' (items.reverse ++ read) frames

/-- No value begins with the end of an array, so where one begins its first item may stand. -/
theorem foldlM_step_firstItem {frames : List Frame} {b : Builder} (hne : ts ≠ [])
    (h : ts.foldlM step ⟨.value, frames⟩ = some b) :
    ts.foldlM step ⟨.firstItem, frames⟩ = some b := by
  obtain ⟨token, ts, rfl⟩ := List.exists_cons_of_ne_nil hne
  rw [List.foldlM_cons] at h ⊢
  obtain ⟨b', hb', -⟩ := Option.bind_eq_some_iff.1 h
  have hclose : close frames token = none := by
    cases token with
    | closeArray | closeObject => cases hb'
    | _ => rcases frames with _ | ⟨⟨⟩, _⟩ <;> rfl
  have hstep : step ⟨.firstItem, frames⟩ token = step ⟨.value, frames⟩ token := by
    simp [step, hclose]
  rwa [hstep]

theorem CompletesItems.ne_nil (h : CompletesItems ts items) : ts ≠ [] := by
  rintro rfl
  cases h [] []

theorem CompletesItems.array (h : CompletesItems ts items) :
    Completes (.openArray :: ts ++ [.closeArray]) (.array items) := fun frames => by
  rw [List.cons_append, List.foldlM_cons]
  change (ts ++ [Token.closeArray]).foldlM step ⟨.firstItem, .array [] :: frames⟩ = _
  rw [List.foldlM_append, foldlM_step_firstItem h.ne_nil (h [] frames)]
  simp [step, close]

theorem completes_emptyArray : Completes [.openArray, .closeArray] (.array []) := fun frames => by
  simp [step, begin, close]

/-! ## Members -/

theorem Completes.member (h : Completes ts d) (name : Option String) :
    CompletesMembers (.text name :: .colon :: ts) [(name, d)] := fun read frames => by
  simp [step, nameMember, h (.member name read :: frames), complete]

theorem CompletesMembers.append (h : CompletesMembers ts members)
    (h' : CompletesMembers ts' members') :
    CompletesMembers (ts ++ .comma :: ts') (members ++ members') := fun read frames => by
  rw [List.foldlM_append, h]
  simpa [step, goOn] using h' (members.reverse ++ read) frames

/-- The first name of an object is read as any name. -/
theorem foldlM_step_firstName {frames : List Frame} {b : Builder} (hne : ts ≠ [])
    (h : ts.foldlM step ⟨.name, frames⟩ = some b) :
    ts.foldlM step ⟨.firstName, frames⟩ = some b := by
  obtain ⟨token, ts, rfl⟩ := List.exists_cons_of_ne_nil hne
  rw [List.foldlM_cons] at h ⊢
  obtain ⟨b', hb', -⟩ := Option.bind_eq_some_iff.1 h
  have hclose : close frames token = none := by
    cases token with
    | text name => rcases frames with _ | ⟨⟨⟩, _⟩ <;> rfl
    | _ => rcases frames with _ | ⟨⟨⟩, _⟩ <;> cases hb'
  have hstep : step ⟨.firstName, frames⟩ token = step ⟨.name, frames⟩ token := by
    simp [step, hclose]
  rwa [hstep]

theorem CompletesMembers.ne_nil (h : CompletesMembers ts members) : ts ≠ [] := by
  rintro rfl
  cases h [] []

theorem CompletesMembers.object (h : CompletesMembers ts members) :
    Completes (.openObject :: ts ++ [.closeObject]) (objectOf members) := fun frames => by
  rw [List.cons_append, List.foldlM_cons]
  change (ts ++ [Token.closeObject]).foldlM step ⟨.firstName, .object [] :: frames⟩ = _
  rw [List.foldlM_append, foldlM_step_firstName h.ne_nil (h [] frames)]
  simp [step, close]

theorem completes_emptyObject : Completes [.openObject, .closeObject] (.object []) := by
  intro frames
  simp [step, begin, close, objectOf, nameMember]

end Builder

/-- Tokens that complete a document spell it. -/
theorem ofTokens_of_completes {ts : List Token} {d : Document} (h : Builder.Completes ts d) :
    ofTokens ts = some d := by
  rw [ofTokens, Builder.start, h]
  rfl

end QuerySnippet.Json
