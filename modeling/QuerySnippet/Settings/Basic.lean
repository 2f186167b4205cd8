/-
Settings: which table of expressions is used, and how type names are shown.
-/
import QuerySnippet.Expressions.Language
import QuerySnippet.Section
import QuerySnippet.Workspace.Basic

namespace QuerySnippet

/-- The settings of a run. -/
structure Settings where
  /-- The language whose own table is used when there is no file of expressions. -/
  language : String := "csharp"
  /-- A file with a table of expressions; it goes before the language. -/
  expressionsFile : Option String := none
  /-- Type names are shown as class names. -/
  classNames : Bool := false
  /-- How much is logged. -/
  logLevel : Option String := none
deriving DecidableEq, Repr

namespace Settings

/-- Reads a path. -/
def readPath : Document → Except Fault String
  | .text value => .ok value
  | d => .error (d.mismatch "path string")

/-- The record of settings. Every member may be left out. -/
def record : Record Settings Settings where
  expected := "struct SnippetConfig"
  fields := [
    .of "language" Document.readText fun language s => { s with language },
    .of "expressions_file" (·.readOptional readPath) fun expressionsFile s =>
      { s with expressionsFile },
    .of "class_names" Document.readBoolean fun classNames s => { s with classNames },
    .of "log_level" (·.readOptional Document.readText) fun logLevel s => { s with logLevel }]
  blank := {}
  finish := .ok
  counted := false

/-- Reads settings from a TOML text, every value of its own type. -/
def ofToml (s : String) : Except Error Settings := Toml.decode record.read s

/-- Reads settings from a file. -/
def ofFile (w : Workspace) (path : String) : Except Error Settings :=
  match w.read? path with
  | some content => ofToml content
  | none => .error .io

/-- The settings for a language, all others as they are by default. -/
def ofLanguage (l : Language) : Settings := { language := l.name }

/-- The settings as a document. -/
def toDocument (s : Settings) : Document :=
  .object [
    ("language", .text s.language),
    ("expressions_file", (s.expressionsFile.map Document.text).getD .null),
    ("class_names", .boolean s.classNames),
    ("log_level", (s.logLevel.map Document.text).getD .null)]

/-- The JSON text of settings. -/
def toJson (s : Settings) : String := Json.write s.toDocument

/-- The language that the settings name. -/
def preset (s : Settings) : Except Error Language := Language.parse s.language

/-- Checks that the settings lead to a table: the file of expressions is there, or else the language
has a table. -/
def validate (s : Settings) (w : Workspace) : Except Error Unit :=
  match s.expressionsFile with
  | some path =>
    if (w.entry path).isPresent then .ok () else .error (.expressionsFileMissing path)
  | none =>
    if Text.trimmed s.language = "" then .error .languageRequired
    else do
      let _ ← s.preset

/-- The table that the settings lead to. -/
def expressions (s : Settings) (w : Workspace) : Except Error Expressions :=
  match s.expressionsFile with
  | some path =>
    match w.read? path with
    | some content => Expressions.ofToml content
    | none => .error .io
  | none => do
    let language ← s.preset
    language.texts.read

/-- The query section of a request by the table that the settings lead to. -/
def querySection (s : Settings) (w : Workspace) (r : Request) : Except Error String := do
  let table ← s.expressions w
  QuerySnippet.querySection table r

end Settings

end QuerySnippet
