/-
Documents: what a text in a notation such as JSON or TOML denotes before
anything is known of its purpose. Objects keep the order of their members
and may repeat a name.
-/
import QuerySnippet.Number.Binary64
import QuerySnippet.Number.Word

namespace QuerySnippet

/-- Why a part of a well-formed text denotes nothing. -/
inductive Unreadable where
  /-- A text with one half of a surrogate pair in it. -/
  | loneSurrogate
  /-- A number beyond the finite ones. -/
  | beyondFinite
deriving DecidableEq, Repr

/-- A document. -/
inductive Document where
  | null
  | boolean (value : Bool)
  | integer (value : Int)
  | floating (value : Number.Binary64)
  | text (value : String)
  /-- A part that denotes nothing. An object with an unreadable name is such a part as a whole. -/
  | unreadable (cause : Unreadable)
  | array (items : List Document)
  | object (members : List (String × Document))

namespace Document

mutual

/-- The number of arrays and objects inside one another. -/
def depth : Document → Nat
  | array items => itemsDepth items + 1
  | object members => membersDepth members + 1
  | _ => 0

/-- The largest depth among items. -/
def itemsDepth : List Document → Nat
  | [] => 0
  | item :: items => max item.depth (itemsDepth items)

/-- The largest depth among members. -/
def membersDepth : List (String × Document) → Nat
  | [] => 0
  | (_, value) :: members => max value.depth (membersDepth members)

end

mutual

/-- The first unreadable part, in the order of the text. -/
def unreadable? : Document → Option Unreadable
  | unreadable cause => some cause
  | array items => unreadableItem? items
  | object members => unreadableMember? members
  | _ => none

/-- The first unreadable part among items. -/
def unreadableItem? : List Document → Option Unreadable
  | [] => none
  | item :: items => item.unreadable? <|> unreadableItem? items

/-- The first unreadable part among members. -/
def unreadableMember? : List (String × Document) → Option Unreadable
  | [] => none
  | (_, value) :: members => value.unreadable? <|> unreadableMember? members

end

/-- How many arrays and objects may stand inside one another. -/
def maxDepth : Nat := 127

/-- Every part denotes something, and the parts are nested at most `maxDepth` deep. -/
def isSound (d : Document) : Bool := d.unreadable?.isNone && d.depth ≤ maxDepth

end Document

end QuerySnippet
