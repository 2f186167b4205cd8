/-
Which type name an identifier has on a segment.

`EdmType.Answers` says it of one type and the name of its owner, without the
order in which things are tried: the owner's own name, in any ASCII case, shuts
out the properties, even where the type it leads to has no text. Of a call the
first parameter that answers counts. A parameter that has nothing to say lets
the next one speak, whether it knows no such name or only an empty text.
`find_iff` states both for all segments.
-/
import Mathlib.Data.List.Basic
import QuerySnippet.Segment.Basic

namespace QuerySnippet

namespace EdmType

/-- `base` is the type without the outermost collection, or the type itself if it is none. -/
inductive Base : EdmType → EdmType → Prop
  | collection (element : EdmType) : Base (.collection element) element
  | structured (schema name : String) (properties : List (String × EdmType)) :
      Base (.structured schema name properties) (.structured schema name properties)
  | scalar (fullName : String) : Base (.scalar fullName) (.scalar fullName)

/-- `found` is the type of the first property of that name, letter by letter. -/
def Declares (type : EdmType) (name : String) (found : EdmType) : Prop :=
  ∃ schema own before after, type = .structured schema own (before ++ (name, found) :: after) ∧
    ∀ property ∈ before, property.1 ≠ name

/-- The type that an identifier stands for on something of this type called `owner`. -/
inductive Denotes (type : EdmType) (owner identifier : String) : EdmType → Prop
  | owner {base} : Text.foldCase owner = Text.foldCase identifier → Base type base →
      Denotes type owner identifier base
  | property {base found inner} : Text.foldCase owner ≠ Text.foldCase identifier →
      Base type base → Declares base identifier found → Base found inner →
      Denotes type owner identifier inner

/-- The text of the type that an identifier stands for, unless it is empty. -/
def Answers (type : EdmType) (owner identifier text : String) : Prop :=
  text ≠ "" ∧ ∃ t, Denotes type owner identifier t ∧ t.display = text

theorem base_iff {type base : EdmType} : Base type base ↔ type.unwrap = base := by
  constructor
  · rintro (_ | _ | _) <;> rfl
  · rintro rfl
    cases type with
    | collection element => exact .collection element
    | structured schema name properties => exact .structured schema name properties
    | scalar fullName => exact .scalar fullName

theorem property?_eq_some_iff {type : EdmType} {name : String} {found : EdmType} :
    type.property? name = some found ↔ Declares type name found := by
  cases type with
  | collection _ | scalar _ => simp [property?, properties, Declares]
  | structured schema own ps =>
    simp only [property?, properties, Option.map_eq_some_iff, List.find?_eq_some_iff_append,
      Declares, structured.injEq]
    constructor
    · rintro ⟨⟨other, _⟩, ⟨hname, before, after, rfl, hbefore⟩, rfl⟩
      obtain rfl : other = name := by simpa using hname
      exact ⟨schema, own, before, after, ⟨rfl, rfl, rfl⟩, by simpa using hbefore⟩
    · rintro ⟨_, _, before, after, ⟨-, -, rfl⟩, hbefore⟩
      exact ⟨(name, found), ⟨by simp, before, after, rfl, by simpa using hbefore⟩, rfl⟩

theorem display?_eq_some_iff {type : EdmType} {text : String} :
    type.display? = some text ↔ text ≠ "" ∧ type.display = text := by
  unfold display?
  split_ifs with h
  · simp only [false_iff, not_and]
    exact fun hne he => hne (he ▸ h)
  · simp only [Option.some.injEq]
    exact ⟨fun he => ⟨he ▸ h, he⟩, fun he => he.2⟩

theorem denotes_of_owner {type t : EdmType} {owner identifier : String}
    (h : Text.foldCase owner = Text.foldCase identifier) :
    Denotes type owner identifier t ↔ type.unwrap = t := by
  rw [← base_iff]
  constructor
  · rintro (⟨-, hbase⟩ | ⟨hne, -⟩)
    · exact hbase
    · exact absurd h hne
  · exact .owner h

theorem denotes_of_ne {type t : EdmType} {owner identifier : String}
    (h : Text.foldCase owner ≠ Text.foldCase identifier) :
    Denotes type owner identifier t ↔
      ∃ found, type.unwrap.property? identifier = some found ∧ found.unwrap = t := by
  constructor
  · rintro (⟨he, -⟩ | ⟨-, hbase, hfound, hinner⟩)
    · exact absurd he h
    · rw [base_iff] at hbase hinner
      exact ⟨_, property?_eq_some_iff.2 (hbase ▸ hfound), hinner⟩
  · rintro ⟨found, hfound, hinner⟩
    exact .property h (base_iff.2 rfl) (property?_eq_some_iff.1 hfound) (base_iff.2 hinner)

theorem lookup_eq_some_iff {type : EdmType} {owner identifier text : String} :
    type.lookup owner identifier = some text ↔ Answers type owner identifier text := by
  by_cases h : Text.foldCase owner = Text.foldCase identifier
  · rw [lookup, if_pos (Text.eqIgnoreCase_iff.2 h), display?_eq_some_iff]
    simp only [Answers, denotes_of_owner h, exists_eq_left']
  · rw [lookup, if_neg (mt Text.eqIgnoreCase_iff.1 h), Option.bind_eq_some_iff]
    simp only [Answers, denotes_of_ne h, display?_eq_some_iff]
    constructor
    · rintro ⟨found, hfound, hne, hdisplay⟩
      exact ⟨hne, _, ⟨found, hfound, rfl⟩, hdisplay⟩
    · rintro ⟨hne, _, ⟨found, hfound, rfl⟩, hdisplay⟩
      exact ⟨found, hfound, hne, hdisplay⟩

theorem lookup_eq_none_iff {type : EdmType} {owner identifier : String} :
    type.lookup owner identifier = none ↔ ∀ text, ¬ Answers type owner identifier text := by
  rw [Option.eq_none_iff_forall_ne_some]
  exact forall_congr' fun text => not_congr lookup_eq_some_iff

end EdmType

namespace Segment

/-- The name is one of the two that stand for the object a call is bound to, in any ASCII case. -/
def NamesBinding (name : String) : Prop :=
  Text.foldCase name = "bindingparameter".toList ∨ Text.foldCase name = "bindparameter".toList

theorem isBinding_iff {name : String} : isBinding name = true ↔ NamesBinding name := by
  have hbinding : Text.foldCase "bindingparameter" = "bindingparameter".toList := by decide
  have hbind : Text.foldCase "bindparameter" = "bindparameter".toList := by decide
  simp [isBinding, bindingNames, Text.eqIgnoreCase_iff, NamesBinding, hbinding, hbind]

/-- A parameter answers, and no parameter in front of it does that is not the binding parameter. -/
def FirstAnswers (parameters : List (String × EdmType)) (identifier text : String) : Prop :=
  ∃ before name type after, parameters = before ++ (name, type) :: after ∧ ¬ NamesBinding name ∧
    type.Answers name identifier text ∧
    ∀ earlier ∈ before, ¬ NamesBinding earlier.1 →
      ∀ other, ¬ earlier.2.Answers earlier.1 identifier other

theorem findSome?_filter {α β : Type} (p : α → Bool) (f : α → Option β) (l : List α) :
    (l.filter p).findSome? f = l.findSome? fun a => if p a then f a else none := by
  induction l with
  | nil => rfl
  | cons a l ih =>
    rw [List.filter_cons, List.findSome?_cons]
    split_ifs with h
    · rw [List.findSome?_cons, ih]
    · exact ih

/-- What a parameter answers for an identifier. The binding parameter is never asked. -/
def answer? (identifier : String) (parameter : String × EdmType) : Option String :=
  if !isBinding parameter.1 then parameter.2.lookup parameter.1 identifier else none

theorem answer?_eq_none_iff {identifier : String} {parameter : String × EdmType} :
    answer? identifier parameter = none ↔ (¬ NamesBinding parameter.1 →
      ∀ text, ¬ parameter.2.Answers parameter.1 identifier text) := by
  rw [answer?, ← isBinding_iff, ← EdmType.lookup_eq_none_iff]
  cases isBinding parameter.1 <;> simp

theorem answer?_eq_some_iff {identifier text : String} {parameter : String × EdmType} :
    answer? identifier parameter = some text ↔
      ¬ NamesBinding parameter.1 ∧ parameter.2.Answers parameter.1 identifier text := by
  rw [answer?, ← isBinding_iff, ← EdmType.lookup_eq_some_iff]
  cases isBinding parameter.1 <;> simp

/-- A call finds what the first of its parameters answers that has an answer. -/
theorem find_operation (identifier : String) (overload : Operation) (overloads : List Operation) :
    find identifier (.operation (overload :: overloads)) =
      overload.parameters.findSome? (answer? identifier) := by
  rw [find, findSome?_filter]
  rfl

theorem find_operation_eq_some_iff {identifier text : String} (overload : Operation)
    (overloads : List Operation) :
    find identifier (.operation (overload :: overloads)) = some text ↔
      FirstAnswers overload.parameters identifier text := by
  rw [find_operation, List.findSome?_eq_some_iff]
  simp only [answer?_eq_none_iff, answer?_eq_some_iff]
  constructor
  · rintro ⟨before, ⟨name, type⟩, after, hsplit, ⟨hname, hanswer⟩, hbefore⟩
    exact ⟨before, name, type, after, hsplit, hname, hanswer, hbefore⟩
  · rintro ⟨before, name, type, after, hsplit, hname, hanswer, hbefore⟩
    exact ⟨before, (name, type), after, hsplit, ⟨hname, hanswer⟩, hbefore⟩

/-- What a segment finds is never empty. -/
theorem find_ne_empty (s : Segment) (identifier : String) : s.find identifier ≠ some "" := by
  cases s with
  | navigationProperty name type | entitySet name type =>
    exact fun h => (EdmType.lookup_eq_some_iff.1 h).1 rfl
  | operation overloads =>
    cases overloads with
    | nil => simp [find]
    | cons overload overloads =>
      intro h
      obtain ⟨_, _, _, _, -, -, ⟨hne, -⟩, -⟩ := (find_operation_eq_some_iff overload overloads).1 h
      exact hne rfl
  | other _ => simp [find]

theorem resolve_eq_empty_iff (s : Segment) (identifier : String) :
    s.resolve identifier = "" ↔ s.find identifier = none := by
  unfold resolve
  cases h : s.find identifier with
  | none => simp
  | some text =>
    have hne : text ≠ "" := fun he => find_ne_empty s identifier (he ▸ h)
    simp [hne]

/-- **What a segment finds**: the type name of its own type, or that of the first parameter that
has one. It is never empty, and nothing else is found. -/
theorem find_iff (identifier : String) :
    (∀ name type text, find identifier (.navigationProperty name type) = some text ↔
      type.Answers name identifier text) ∧
    (∀ name type text, find identifier (.entitySet name type) = some text ↔
      type.Answers name identifier text) ∧
    (∀ overload overloads text, find identifier (.operation (overload :: overloads)) = some text ↔
      FirstAnswers overload.parameters identifier text) ∧
    find identifier (.operation []) = none ∧
    (∀ own, find identifier (.other own) = none) ∧
    (∀ s : Segment, s.find identifier ≠ some "") ∧
    ∀ s : Segment, s.resolve identifier = "" ↔ s.find identifier = none :=
  ⟨fun _ _ _ => EdmType.lookup_eq_some_iff, fun _ _ _ => EdmType.lookup_eq_some_iff,
    fun overload overloads _ => find_operation_eq_some_iff overload overloads, rfl, fun _ => rfl,
    fun s => find_ne_empty s identifier, fun s => resolve_eq_empty_iff s identifier⟩

end Segment

end QuerySnippet
