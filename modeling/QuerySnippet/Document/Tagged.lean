/-
Tagged values: records of several kinds, told apart by a member `kind`.

The tag may stand anywhere in the object; in an array it is the first item. It
is read before everything else of the value. Inside another tagged value the
tag may also be the position of the kind in the list of all kinds.
-/
import QuerySnippet.Document.Record

namespace QuerySnippet

/-- One kind of a tagged value. -/
structure Variant (α : Type) where
  tag : String
  /-- Reads the members other than the tag. -/
  ofMembers : List (String × Document) → Except Fault α
  /-- Reads the items after the tag. -/
  ofItems : List Document → Except Fault α

/-- The kind that holds a record. -/
def Record.variant {δ α β : Type} (r : Record δ α) (tag : String) (wrap : α → β) : Variant β where
  tag
  ofMembers members := wrap <$> r.ofMembers members
  ofItems items := wrap <$> r.ofItems items

/-- A tagged value of type `α`. -/
structure Tagged (α : Type) where
  /-- The value, as messages call it. -/
  expected : String
  variants : List (Variant α)

namespace Tagged

variable {α : Type}

/-- The name of the tag. -/
def tagName : String := "kind"

/-- The kind a tag names, or with `inside` also the one it counts. -/
def variant (t : Tagged α) (inside : Bool) : Document → Except Fault (Variant α)
  | .text name =>
    match t.variants.find? (·.tag == name) with
    | some variant => .ok variant
    | none => .error (.unknownVariant name (t.variants.map (·.tag)))
  | .integer position =>
    if inside ∧ 0 ≤ position then
      match t.variants[position.toNat]? with
      | some variant => .ok variant
      | none =>
        .error (.wrongValue (.integer position)
          ("variant index 0 <= i < " ++ toString t.variants.length))
    else .error (.wrongType (.integer position) "variant identifier")
  | d => .error (d.mismatch "variant identifier")

/-- Reads a tagged value. -/
def read (t : Tagged α) (inside : Bool) : Document → Except Fault α
  | .object members =>
    match members.filter (·.1 == tagName) with
    | [] => .error (.missing tagName)
    | (_, tag) :: others => do
      let variant ← t.variant inside tag
      if others.isEmpty then variant.ofMembers (members.filter (·.1 != tagName))
      else .error (.duplicate tagName)
  | .array [] => .error (.missing tagName)
  | .array (tag :: items) => do
    let variant ← t.variant inside tag
    variant.ofItems items
  | d => .error (d.mismatch t.expected)

end Tagged

end QuerySnippet
