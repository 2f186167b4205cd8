/-
Documents that JSON can hold without loss: texts, truth values, nothing, the
integers of 64 bits, and arrays and objects of these.
-/
import Mathlib.Data.List.Basic
import QuerySnippet.Document.Basic

namespace QuerySnippet

/-- The integer fits in 64 bits, signed or unsigned. -/
def Number.Fits64 (n : Int) : Prop := fitsUnsigned 64 n ∨ fitsSigned 64 n

theorem Number.fitsUnsigned_toNat (n : UInt64) : fitsUnsigned 64 n.toNat := by
  have := n.toNat_lt
  simp [fitsUnsigned]
  omega

theorem Number.fits64_toNat (n : UInt64) : Fits64 n.toNat := Or.inl (fitsUnsigned_toNat n)

namespace Document

mutual

/-- The document is plain. -/
def Plain : Document → Prop
  | integer n => Number.Fits64 n
  | floating _ => False
  | unreadable _ => False
  | array items => PlainItems items
  | object members => PlainMembers members
  | _ => True

/-- All items are plain. -/
def PlainItems : List Document → Prop
  | [] => True
  | item :: items => item.Plain ∧ PlainItems items

/-- The values of all members are plain. -/
def PlainMembers : List (String × Document) → Prop
  | [] => True
  | (_, value) :: members => value.Plain ∧ PlainMembers members

end

theorem plainItems_iff {items : List Document} :
    PlainItems items ↔ ∀ item ∈ items, item.Plain := by
  induction items with
  | nil => simp [PlainItems]
  | cons item items ih => rw [PlainItems, ih, List.forall_mem_cons]

theorem plainMembers_iff {members : List (String × Document)} :
    PlainMembers members ↔ ∀ member ∈ members, member.2.Plain := by
  induction members with
  | nil => simp [PlainMembers]
  | cons member members ih => rw [PlainMembers, ih, List.forall_mem_cons]

mutual

/-- Every part of a plain document denotes something. -/
theorem unreadable?_of_plain : ∀ {d : Document}, d.Plain → d.unreadable? = none
  | null, _ | boolean _, _ | integer _, _ | text _, _ => rfl
  | array items, h => by
    rw [unreadable?, unreadableItem?_of_plain (show PlainItems items from h)]
  | object members, h => by
    rw [unreadable?, unreadableMember?_of_plain (show PlainMembers members from h)]

theorem unreadableItem?_of_plain : ∀ {items : List Document},
    PlainItems items → unreadableItem? items = none
  | [], _ => rfl
  | item :: items, h => by
    rw [unreadableItem?, unreadable?_of_plain h.1, unreadableItem?_of_plain h.2]
    rfl

theorem unreadableMember?_of_plain : ∀ {members : List (String × Document)},
    PlainMembers members → unreadableMember? members = none
  | [], _ => rfl
  | (_, value) :: members, h => by
    rw [unreadableMember?, unreadable?_of_plain h.1, unreadableMember?_of_plain h.2]
    rfl

end

/-- A plain document is sound as long as it is not nested too deep. -/
theorem isSound_of_plain {d : Document} (h : d.Plain) :
    d.isSound = decide (d.depth ≤ maxDepth) := by
  rw [isSound, unreadable?_of_plain h]
  rfl

end Document

end QuerySnippet
