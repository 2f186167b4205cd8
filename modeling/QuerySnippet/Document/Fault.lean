/-
Faults: why a document is not what its reader expects, and their messages.

A fault is about the first place in the order of the document that does not
fit; only a member that is not there is noticed at the end of its object.
-/
import QuerySnippet.Document.Basic
import QuerySnippet.Template.Basic

namespace QuerySnippet

/-- What stands where something else was expected. -/
inductive Found where
  | null
  | boolean (value : Bool)
  | integer (value : Int)
  | floating (value : Number.Binary64)
  | text (value : String)
  | sequence
  | map

/-- Why a document does not fit. -/
inductive Fault where
  /-- A value of another kind. -/
  | wrongType (found : Found) (expected : String)
  /-- A value of the right kind that is not among those expected. -/
  | wrongValue (found : Found) (expected : String)
  /-- An array with too few or too many items. -/
  | wrongLength (length : Nat) (expected : String)
  /-- A member that is not there. -/
  | missing (name : String)
  /-- A member that is there twice. -/
  | duplicate (name : String)
  /-- A tag that is none of those known. -/
  | unknownVariant (name : String) (known : List String)
  /-- Items after the last one expected. -/
  | trailing
  /-- A text that is no template. -/
  | template (error : Template.Error)
  /-- A part that denotes nothing. -/
  | unreadable (cause : Unreadable)

/-- What was found, in words. -/
def Found.message (style : Number.Style) : Found → String
  | null => "null"
  | boolean value => "boolean `" ++ toString value ++ "`"
  | integer value => "integer `" ++ toString value ++ "`"
  | floating value => "floating point `" ++ value.text style ++ "`"
  | text value => "string " ++ Text.quoted value
  | sequence => "sequence"
  | map => "map"

/-- Why a part denotes nothing, in words. -/
def Unreadable.message : Unreadable → String
  | loneSurrogate => "lone leading surrogate in hex escape"
  | beyondFinite => "number out of range"

/-- The message of a fault, with numbers written as the notation of the document does. -/
def Fault.message (style : Number.Style) : Fault → String
  | wrongType found expected =>
    "invalid type: " ++ found.message style ++ ", expected " ++ expected
  | wrongValue found expected =>
    "invalid value: " ++ found.message style ++ ", expected " ++ expected
  | wrongLength length expected =>
    "invalid length " ++ toString length ++ ", expected " ++ expected
  | missing name => "missing field `" ++ name ++ "`"
  | duplicate name => "duplicate field `" ++ name ++ "`"
  | unknownVariant name known =>
    "unknown variant `" ++ name ++ "`, expected one of "
      ++ ", ".intercalate (known.map fun tag => "`" ++ tag ++ "`")
  | trailing => "trailing characters"
  | template error => error.message
  | unreadable cause => cause.message

/-- The fault of a document of the wrong kind. -/
def Document.mismatch (expected : String) : Document → Fault
  | null => .wrongType .null expected
  | boolean value => .wrongType (.boolean value) expected
  | integer value => .wrongType (.integer value) expected
  | floating value => .wrongType (.floating value) expected
  | text value => .wrongType (.text value) expected
  | unreadable cause => .unreadable cause
  | array _ => .wrongType .sequence expected
  | object _ => .wrongType .map expected

end QuerySnippet
