/-
What can stand at a path.
-/
import QuerySnippet.Text.Lossy

namespace QuerySnippet

/-- What stands at a path. -/
inductive Entry where
  | missing
  /-- A directory, or what is no file either and gives no text. -/
  | directory
  /-- A file with this text. -/
  | file (content : String)
  /-- A file that holds no text, and what it becomes when every part of it that is none is
  replaced. -/
  | undecodable (lossy : String)
  /-- A file that cannot be read. -/
  | unreadable
  /-- What is no file and can be read as this text all the same. -/
  | device (content : String)
deriving DecidableEq, Repr

namespace Entry

/-- A file with these bytes. -/
def ofBytes (bytes : ByteArray) : Entry :=
  match String.fromUTF8? bytes with
  | some content => file content
  | none => undecodable (Text.lossy bytes)

/-- There is something. -/
def isPresent : Entry → Bool
  | missing => false
  | _ => true

/-- There is a file. -/
def isFile : Entry → Bool
  | file _ => true
  | undecodable _ => true
  | unreadable => true
  | _ => false

/-- The text that can be read. -/
def content? : Entry → Option String
  | file content => some content
  | device content => some content
  | _ => none

/-- What can be read where anything will do for a text. -/
def lossy? : Entry → Option String
  | undecodable lossy => some lossy
  | entry => entry.content?

end Entry

end QuerySnippet
