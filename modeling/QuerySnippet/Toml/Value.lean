/-
Values of TOML.

A table holds its members in the order in which the text defines them; seen
as a document its members stand in the order of their names.
-/
import QuerySnippet.Document.Basic

namespace QuerySnippet.Toml

/-- A value. -/
inductive Value where
  | text (value : String)
  | boolean (value : Bool)
  | integer (value : Int)
  | floating (value : Number.Binary64)
  /-- A floating point numeral beyond the finite numbers. -/
  | hugeFloating
  /-- A date, a time, or both, as it is written in full. -/
  | moment (written : String)
  | array (items : List Value)
  | table (members : List (String × Value))

namespace Value

/-- Members in the order of their names. -/
def sorted (members : List (String × Document)) : List (String × Document) :=
  members.mergeSort fun a b => a.1 ≤ b.1

mutual

/-- Every number in the value is finite or written as infinite, and its integers are as `fits`
says. -/
def allNumbers (fits : Int → Bool) : Value → Bool
  | integer value => fits value
  | hugeFloating => false
  | array items => allItemNumbers fits items
  | table members => allMemberNumbers fits members
  | _ => true

/-- The same of every number in the items. -/
def allItemNumbers (fits : Int → Bool) : List Value → Bool
  | [] => true
  | item :: items => item.allNumbers fits && allItemNumbers fits items

/-- The same of every number in the members. -/
def allMemberNumbers (fits : Int → Bool) : List (String × Value) → Bool
  | [] => true
  | (_, value) :: members => value.allNumbers fits && allMemberNumbers fits members

end

/-- No number is too large to be passed over: integers have at most 128 bits, signed or unsigned. -/
def isSound (value : Value) : Bool :=
  value.allNumbers fun n => Number.fitsSigned 128 n || Number.fitsUnsigned 128 n

/-- No number is too large to be kept: integers are signed words of 64 bits. -/
def isModest (value : Value) : Bool := value.allNumbers (Number.fitsSigned 64)

mutual

/-- A value as a document. A date or time looks like an object there, and a number beyond the finite
ones denotes nothing. -/
def toDocument : Value → Document
  | text value => .text value
  | boolean value => .boolean value
  | integer value => .integer value
  | floating value => .floating value
  | hugeFloating => .unreadable .beyondFinite
  | moment _ => .object []
  | array items => .array (itemDocuments items)
  | table members => .object (sorted (memberDocuments members))

/-- Items as documents. -/
def itemDocuments : List Value → List Document
  | [] => []
  | item :: items => item.toDocument :: itemDocuments items

/-- Members as documents. -/
def memberDocuments : List (String × Value) → List (String × Document)
  | [] => []
  | (name, value) :: members => (name, value.toDocument) :: memberDocuments members

end

end Value

end QuerySnippet.Toml
