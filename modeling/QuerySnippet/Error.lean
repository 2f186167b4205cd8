/-
What can go wrong, and the messages for it.
-/
import QuerySnippet.Document.Fault
import QuerySnippet.Json.Write

namespace QuerySnippet

/-- Why something could not be read or rendered. -/
inductive Error where
  /-- A text that is no template. -/
  | template (error : Template.Error)
  /-- A header that has no value to show. -/
  | missingHeaderValue (name : String)
  /-- A language that has no table of its own. -/
  | unknownLanguage (name : String)
  /-- Settings with neither a language nor a file of expressions. -/
  | languageRequired
  /-- Settings that name a file of expressions that is not there. -/
  | expressionsFileMissing (path : String)
  /-- A text that is no JSON document, or whose document has a fault. -/
  | json (fault : Option Fault)
  /-- A text that is no TOML document, or whose document has a fault. -/
  | toml (fault : Option Fault)
  /-- Layers of settings that do not combine. -/
  | settings
  /-- A setting named by a path with a position that no list can have. -/
  | outOfReach
  /-- A setting named by a path with a position in a list that is too long to hold. -/
  | outOfMemory
  /-- A file that cannot be read. -/
  | io

/-- Numbers in messages about TOML are written in full, whole ones with `.0`. -/
def Toml.numberStyle : Number.Style where
  inFull _ := true
  wholePoint := true
  tie := .up

/-- The message of an error, where its text is fixed. -/
def Error.message : Error → Option String
  | template error => some error.message
  | missingHeaderValue name => some ("Header has no values: " ++ name)
  | unknownLanguage name => some ("Unknown language: " ++ name)
  | languageRequired =>
    some "Validation error: language is required when no expressions_file is set"
  | expressionsFileMissing path => some ("Validation error: Expressions file not found: " ++ path)
  | json fault =>
    fault.map fun fault => "Failed to parse input: " ++ fault.message Json.numberStyle
  | toml fault => fault.map (·.message Toml.numberStyle)
  | settings => none
  | outOfReach => none
  | outOfMemory => none
  | io => none

end QuerySnippet
