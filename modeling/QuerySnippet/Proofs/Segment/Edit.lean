/-
What the search for a type name depends on.

A lookup reads the names in a type and the properties one level down, the first of each
name, and of their types the text only. A search through a call reads the first overload,
without its name and its binding parameter, up to the parameter that answers. So changes
elsewhere cannot show: each kind is one constructor of `Segment.Edit`, and however many
of them lead from one segment to another, in either direction, both find the same type
name (`find_eq_of_edits`).
-/
import Mathlib.Logic.Relation
import QuerySnippet.Proofs.Segment.Lookup

namespace QuerySnippet

namespace EdmType

/-! ## Changes to a type -/

/-- The types have the same collections around the same name. The properties that the innermost
types declare may be any. -/
inductive Alike : EdmType → EdmType → Prop
  | collection {element element' : EdmType} : Alike element element' →
      Alike (.collection element) (.collection element')
  | structured (schema name : String) (properties properties' : List (String × EdmType)) :
      Alike (.structured schema name properties) (.structured schema name properties')
  | scalar (fullName : String) : Alike (.scalar fullName) (.scalar fullName)

/-- One change to a type that no lookup can see. -/
inductive Edit : EdmType → EdmType → Prop
  /-- A property is declared behind another one of the same name. -/
  | shadowed (schema own : String) (before : List (String × EdmType)) (name : String)
      (type : EdmType) (between : List (String × EdmType)) (later : EdmType)
      (after : List (String × EdmType)) :
    Edit (.structured schema own (before ++ (name, type) :: between ++ after))
      (.structured schema own (before ++ (name, type) :: between ++ (name, later) :: after))
  /-- The type of a property declares other properties itself, so anything below it may change. -/
  | inner (schema own : String) (before : List (String × EdmType)) (name : String)
      {type type' : EdmType} (after : List (String × EdmType)) : Alike type type' →
    Edit (.structured schema own (before ++ (name, type) :: after))
      (.structured schema own (before ++ (name, type') :: after))
  /-- The element type of a collection is changed. -/
  | collection {element element' : EdmType} : Edit element element' →
      Edit (.collection element) (.collection element')

theorem Alike.display_eq {t t' : EdmType} (h : Alike t t') : t.display = t'.display := by
  induction h with
  | collection _ ih => rw [display, display, ih]
  | structured | scalar => rfl

theorem Alike.display?_unwrap_eq {t t' : EdmType} (h : Alike t t') :
    t.unwrap.display? = t'.unwrap.display? := by
  have hunwrap : t.unwrap.display = t'.unwrap.display := by
    cases h with
    | collection h => exact h.display_eq
    | structured | scalar => rfl
  rw [display?, display?, hunwrap]

/-- No change touches the text of a type. -/
theorem Edit.alike : ∀ {t t' : EdmType}, Edit t t' → Alike t t'
  | _, _, .shadowed .. => .structured ..
  | _, _, .inner .. => .structured ..
  | _, _, .collection h => .collection h.alike

/-- A change stays one when a collection around the type is taken off. -/
theorem Edit.unwrap {t t' : EdmType} (h : Edit t t') : Edit t.unwrap t'.unwrap := by
  cases h with
  | shadowed schema own before name type between later after =>
    exact .shadowed schema own before name type between later after
  | inner schema own before name after h => exact .inner schema own before name after h
  | collection h => exact h

/-- The text of the type of a property. -/
def propertyText? (t : EdmType) (name : String) : Option String :=
  (t.property? name).bind fun found => found.unwrap.display?

theorem propertyText?_structured (schema own : String) (properties : List (String × EdmType))
    (name : String) : propertyText? (.structured schema own properties) name =
      (properties.find? (·.1 == name)).bind fun property => property.2.unwrap.display? := by
  rw [propertyText?, property?, Option.bind_map]
  rfl

theorem Edit.propertyText?_eq {t t' : EdmType} (h : Edit t t') (name : String) :
    t.propertyText? name = t'.propertyText? name := by
  cases h with
  | shadowed schema own before other type between later after =>
    simp only [propertyText?_structured]
    by_cases hname : other = name
    · simp [hname]
    · simp [hname, List.find?_append]
  | inner schema own before other after h =>
    simp only [propertyText?_structured, List.find?_append]
    cases before.find? (·.1 == name) with
    | some property => rfl
    | none =>
      by_cases hname : other = name
      · simp [hname, h.display?_unwrap_eq]
      · simp [hname]
  | collection => rfl

/-- A change that no lookup can see. -/
theorem Edit.lookup_eq {t t' : EdmType} (h : Edit t t') (owner identifier : String) :
    t.lookup owner identifier = t'.lookup owner identifier := by
  have hown : t.unwrap.display? = t'.unwrap.display? := h.alike.display?_unwrap_eq
  have hproperty := h.unwrap.propertyText?_eq identifier
  rw [propertyText?, propertyText?] at hproperty
  rw [lookup, lookup, hown, hproperty]

end EdmType

namespace Segment

/-! ## Changes to a segment -/

/-- One change to the parameters of a call that a search for the identifier cannot see. A binding
parameter that moves or gets another type is taken out and put in again. -/
inductive ParameterEdit (identifier : String) :
    List (String × EdmType) → List (String × EdmType) → Prop
  /-- A binding parameter is put in. -/
  | binding (before : List (String × EdmType)) {name : String} (type : EdmType)
      (after : List (String × EdmType)) : NamesBinding name →
    ParameterEdit identifier (before ++ after) (before ++ (name, type) :: after)
  /-- Behind a parameter that answers the parameters are others. -/
  | behind (before : List (String × EdmType)) {parameter : String × EdmType}
      (after after' : List (String × EdmType)) : (answer? identifier parameter).isSome →
    ParameterEdit identifier (before ++ parameter :: after) (before ++ parameter :: after')
  /-- The type of a parameter is changed. -/
  | type (before : List (String × EdmType)) (name : String) {type type' : EdmType}
      (after : List (String × EdmType)) : EdmType.Edit type type' →
    ParameterEdit identifier (before ++ (name, type) :: after) (before ++ (name, type') :: after)

/-- One change to a segment that a search for the identifier cannot see. -/
inductive Edit (identifier : String) : Segment → Segment → Prop
  /-- The type of a navigation property is changed. -/
  | navigationProperty (name : String) {type type' : EdmType} : EdmType.Edit type type' →
      Edit identifier (.navigationProperty name type) (.navigationProperty name type')
  /-- The type of an entity set is changed. -/
  | entitySet (name : String) {type type' : EdmType} : EdmType.Edit type type' →
      Edit identifier (.entitySet name type) (.entitySet name type')
  /-- The overloads behind the first are others. -/
  | overloads (first : Operation) (later later' : List Operation) :
      Edit identifier (.operation (first :: later)) (.operation (first :: later'))
  /-- The call has another name. -/
  | rename (name name' : String) (parameters : List (String × EdmType)) (later : List Operation) :
      Edit identifier (.operation (⟨name, parameters⟩ :: later))
        (.operation (⟨name', parameters⟩ :: later))
  /-- The parameters of the first overload are changed. -/
  | parameters (name : String) {parameters parameters' : List (String × EdmType)}
      (later : List Operation) : ParameterEdit identifier parameters parameters' →
      Edit identifier (.operation (⟨name, parameters⟩ :: later))
        (.operation (⟨name, parameters'⟩ :: later))

/-- Any number of changes, each made or undone. -/
abbrev Edits (identifier : String) := Relation.EqvGen (Edit identifier)

variable {identifier : String}

theorem ParameterEdit.findSome?_eq {parameters parameters' : List (String × EdmType)}
    (h : ParameterEdit identifier parameters parameters') :
    parameters.findSome? (answer? identifier) = parameters'.findSome? (answer? identifier) := by
  cases h with
  | binding before type after hname =>
    rw [List.findSome?_append, List.findSome?_append, List.findSome?_cons,
      answer?_eq_none_iff.2 fun hnot => absurd hname hnot]
  | behind before after after' hanswer =>
    obtain ⟨text, htext⟩ := Option.isSome_iff_exists.1 hanswer
    simp only [List.findSome?_append, List.findSome?_cons, htext]
  | type before name after hedit =>
    simp only [List.findSome?_append, List.findSome?_cons, answer?, hedit.lookup_eq]

theorem Edit.find_eq {s s' : Segment} (h : Edit identifier s s') :
    s.find identifier = s'.find identifier := by
  cases h with
  | navigationProperty name hedit | entitySet name hedit => exact hedit.lookup_eq name identifier
  | overloads first later later' => rw [find_operation, find_operation]
  | rename name name' parameters later => rw [find_operation, find_operation]
  | parameters name later hedit => rw [find_operation, find_operation, hedit.findSome?_eq]

/-- **What a search depends on.** Changes to what is never looked at, as many as you like, leave the
type name that is found as it was. -/
theorem find_eq_of_edits {s s' : Segment} (h : Edits identifier s s') :
    s.find identifier = s'.find identifier := by
  induction h with
  | rel s s' hedit => exact hedit.find_eq
  | refl s => rfl
  | symm s s' _ ih => exact ih.symm
  | trans s t s' _ _ first second => exact first.trans second

/-- A change of every kind around a parameter that answers with the first of two properties. -/
theorem find_eq_of_edits_of_call :
    let subject : String × EdmType := ("subject", .scalar "Edm.String")
    let message (properties : List (String × EdmType)) : String × EdmType :=
      ("Mail", .collection (.structured "g" "message" (subject :: properties)))
    let call := Segment.operation
      [⟨"send", [("bindingParameter", .structured "g" "user" [("subject", .scalar "Edm.Guid")]),
        message [("body", .structured "g" "body" [])]]⟩, ⟨"send", []⟩]
    let call' := Segment.operation
      [⟨"reply", [message [("body", .structured "g" "body" [subject]),
        ("subject", .scalar "Edm.Int32")], ("Subject", .scalar "Edm.Date")]⟩]
    call.find "subject" = some "Edm.String" ∧ call'.find "subject" = call.find "subject" := by
  intro subject message call call'
  refine ⟨by decide +kernel, (find_eq_of_edits ?_).symm⟩
  let body (properties : List (String × EdmType)) : String × EdmType :=
    ("body", .structured "g" "body" properties)
  let user := EdmType.structured "g" "user" [("subject", .scalar "Edm.Guid")]
  have hinner : EdmType.Edit (message [body []]).2 (message [body [subject]]).2 :=
    .collection (.inner "g" "message" [subject] "body" [] (.structured ..))
  have hshadowed : EdmType.Edit (message [body [subject]]).2
      (message [body [subject], ("subject", .scalar "Edm.Int32")]).2 :=
    .collection (.shadowed "g" "message" [] "subject" _ [body [subject]] _ [])
  refine .trans _ _ _ (.rel _ _ (.overloads _ _ [])) ?_
  refine .trans _ _ _ (.rel _ _ (.rename _ "reply" _ _)) ?_
  refine .trans _ _ _ (.symm _ _ (.rel _ _ (.parameters _ _ (.binding [] user _ ?_)))) ?_
  · exact .inl (by decide)
  refine .trans _ _ _ (.rel _ _ (.parameters _ _ (.type [] "Mail" [] hinner))) ?_
  refine .trans _ _ _ (.rel _ _ (.parameters _ _ (.type [] "Mail" [] hshadowed))) ?_
  refine .rel _ _ (.parameters _ _ (.behind [] [] _ ?_))
  decide +kernel

end Segment

end QuerySnippet
