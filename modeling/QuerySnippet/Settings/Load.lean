/-
Loading settings: the defaults, over them a file, over that the environment.
-/
import QuerySnippet.Settings.Basic

namespace QuerySnippet.Settings

/-- The name of the file that is read when none is given, without its extension. -/
def defaultFile : String := "odata-snippets"

/-- A path, last character first, without the slashes and the names `.` at its end. -/
def dropTail : List Char → List Char
  | '/' :: rest => dropTail rest
  | '.' :: '/' :: rest => dropTail rest
  | ['.'] => []
  | rest => rest

/-- A path up to the end of its last name. -/
def stripped (path : String) : String := String.ofList (dropTail path.toList.reverse).reverse

/-- The last name of a path. A path that ends in `..` or leads nowhere from where it starts has
none. -/
def lastName? (path : String) : Option String :=
  match (Workspace.components (stripped path)).getLast? with
  | some "" | some ".." => none
  | name => name

/-- What stands behind the last dot of a name, unless nothing else stands in front of it. -/
def extension? (name : String) : Option String :=
  match name.toList.reverse.span (· != '.') with
  | (after, _ :: _ :: _) => some (String.ofList after.reverse)
  | _ => none

/-- A file that is looked for when a path leads to none: the extension is put behind the last name of
the path, or behind the path as it is written when that name has an extension already. -/
def extended? (path extension : String) : Option String := do
  let name ← lastName? path
  match extension? name with
  | none => some (stripped path ++ "." ++ extension)
  | some _ => if path.toList.getLast? = some '/' then none else some (path ++ "." ++ extension)

/-- The file that a path leads to, and its format: the path itself or, if there is no such file, the
path with the first extension that makes one. A file of its own name must have an extension that is
known. Paths are followed from the root. -/
def locate (w : Workspace) (path : String) : Option (String × Format) :=
  if w.hasFile path then do
    let extension ← (lastName? path).bind extension?
    let format ← w.loader.formats.lookup extension
    pure (path, format)
  else w.loader.formats.findSome? fun (extension, format) => do
    let path ← extended? path extension
    if w.hasFile path then pure (path, format) else none

/-- What the file that a path leads to holds, and its format. Bytes that are no text do no harm. -/
def found? (w : Workspace) (path : String) : Option (String × Format) := do
  let (path, format) ← locate w path
  let content ← (w.entry path).lossy?
  pure (content, format)

/-- The layer of the file that is given, which must be there, or of the default file, if it is. -/
def fileLayer (w : Workspace) (path : Option String) : Except Error Layer :=
  match found? w (path.getD defaultFile) with
  | some (content, format) => format content
  | none => if path.isSome then .error .settings else .ok []

/-- The settings that a layer makes. -/
def ofLayer (loader : Loader) (layer : Layer) : Except Error Settings := do
  loader.checkPositions layer
  let blank : Settings := {}
  let language ← (layer.value? "language").mapM looseText
  let expressionsFile ← (layer.value? "expressions_file").mapM (looseOptional looseText)
  let classNames ← (layer.value? "class_names").mapM looseBoolean
  let logLevel ← (layer.value? "log_level").mapM (looseOptional looseText)
  pure {
    language := language.getD blank.language
    expressionsFile := expressionsFile.join
    classNames := classNames.getD blank.classNames
    logLevel := logLevel.join }

/-- Loads settings. -/
def load (w : Workspace) (path : Option String) : Except Error Settings := do
  let file ← fileLayer w path
  ofLayer w.loader (file ++ Layer.ofEnvironment w.environment)

end QuerySnippet.Settings
