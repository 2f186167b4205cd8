/-
Records: objects with known members, or arrays of the same values in the
order of declaration.

The members of an object may come in any order. Each is read as it comes;
one that has been read before is a fault, and one that is not known is passed
over. Required members that never came are missing at the end, in the order of
declaration. An array may leave out members at its end unless they are
required.
-/
import QuerySnippet.Document.Read

namespace QuerySnippet

/-- A member of a record, read into a draft of it. -/
structure Field (δ : Type) where
  name : String
  /-- Reads the member's value and says what it changes in the draft. -/
  read : Document → Except Fault (δ → δ)

/-- The field that puts what `read` reads into the draft by `set`. -/
def Field.of {δ β : Type} (name : String) (read : Document → Except Fault β) (set : β → δ → δ) :
    Field δ where
  name
  read d := set <$> read d

/-- A record of type `α`, gathered in a draft of type `δ`. -/
structure Record (δ α : Type) where
  /-- The kind of record, as messages call it. -/
  expected : String
  /-- Its members in the order of declaration. -/
  fields : List (Field δ)
  /-- The draft before any member. -/
  blank : δ
  /-- The record of a draft, or the name of the first required member it lacks. -/
  finish : δ → Except String α
  /-- Whether the document is part of a tagged value, where items are counted beforehand. -/
  counted : Bool

/-- A number of array items, in words. -/
def elements (count : Nat) : String :=
  if count = 1 then "1 element" else toString count ++ " elements"

namespace Record

variable {δ α : Type}

/-- The known member with this name. -/
def field? (r : Record δ α) (name : String) : Option (Field δ) := r.fields.find? (·.name == name)

/-- Reads members into a draft. `seen` names those read before. -/
def readMembers (r : Record δ α) (seen : List String) (draft : δ) :
    List (String × Document) → Except Fault δ
  | [] => .ok draft
  | (name, value) :: members =>
    match r.field? name with
    | none => r.readMembers seen draft members
    | some field =>
      if name ∈ seen then .error (.duplicate name)
      else do
        let update ← field.read value
        r.readMembers (name :: seen) (update draft) members

/-- The record with these members. -/
def ofMembers (r : Record δ α) (members : List (String × Document)) : Except Fault α := do
  let draft ← r.readMembers [] r.blank members
  (r.finish draft).mapError .missing

/-- Reads items into a draft, each by the field it stands for. -/
def readItems (draft : δ) : List (Field δ) → List Document → Except Fault δ
  | field :: fields, item :: items => do
    let update ← field.read item
    readItems (update draft) fields items
  | _, _ => .ok draft

/-- The fault of an array with too many items. -/
def surplus (r : Record δ α) (count : Nat) : Fault :=
  if r.counted then .wrongLength count (elements r.fields.length ++ " in sequence") else .trailing

/-- The record with these items. -/
def ofItems (r : Record δ α) (items : List Document) : Except Fault α := do
  let draft ← readItems r.blank r.fields items
  match r.finish draft with
  | .error name =>
    .error (.wrongLength (r.fields.findIdx (·.name == name))
      (r.expected ++ " with " ++ elements r.fields.length))
  | .ok a => if items.length ≤ r.fields.length then .ok a else .error (r.surplus items.length)

/-- Reads a record. -/
def read (r : Record δ α) : Document → Except Fault α
  | .object members => r.ofMembers members
  | .array items => r.ofItems items
  | d => .error (d.mismatch r.expected)

end Record

/-- The value of a required member, or its name when the draft lacks it. -/
def required {α : Type} (name : String) : Option α → Except String α
  | some a => .ok a
  | none => .error name

end QuerySnippet
