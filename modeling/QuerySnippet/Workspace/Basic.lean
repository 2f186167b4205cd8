/-
What a run sees of its surroundings: the files by their paths, the environment,
and the loader of settings that it was built with.
-/
import QuerySnippet.Settings.Loader
import QuerySnippet.Workspace.System

namespace QuerySnippet

/-- Files, environment and loader. -/
structure Workspace where
  /-- What stands at a path. -/
  entry : String → Entry
  /-- How many bytes a path may have that starts in the workspace and is followed from the root. -/
  room : Nat
  /-- The variables. Where two of them mean the same setting, the later one holds. -/
  environment : List (String × String)
  /-- What reads files of settings. -/
  loader : Settings.Loader

namespace Workspace

/-- The names that make up a path. -/
def components (path : String) : List String :=
  (path.toList.splitOn '/').map String.ofList

/-- How many links may be followed on a path, in the system that is assumed. -/
def maxLinks : Nat := 40

/-- How many bytes a path may have there. -/
def maxPathSize : Nat := 4095

/-- How many bytes the path from the root to the workspace is assumed to have, with the slash behind
it. -/
def workspaceDepth : Nat := 16

/-- How far a path has been followed. -/
structure Position where
  place : Place
  /-- How many links have been followed. -/
  links : Nat

/-- The place one name further in a directory of the workspace. The workspace is a directory for
temporary files, and its own name is not known. -/
def stepInside (files : List (List String × String)) (names : List String) (name : String) :
    Place :=
  if name = "" ∨ name = "." then .inside names
  else if name = ".." then if names.isEmpty then .system ["tmp"] else .inside names.dropLast
  else
    let names := names ++ [name]
    match files.lookup names with
    | some content => .leaf (.file content)
    | none => if files.any (names.isPrefixOf ·.1) then .inside names else .leaf .missing

/-- The position one name further. -/
def Position.step (files : List (List String × String)) : Position → String → Position
  | ⟨.inside names, links⟩, name => ⟨stepInside files names name, links⟩
  | ⟨.system names, links⟩, name =>
    if name = "" ∨ name = "." then ⟨.system names, links⟩
    else if name = ".." then ⟨.system names.dropLast, links⟩
    else
      let (count, place) := systemNode (names ++ [name])
      if links + count ≤ maxLinks then ⟨place, links + count⟩ else ⟨.leaf .missing, links⟩
  | ⟨.leaf _, links⟩, _ => ⟨.leaf .missing, links⟩

/-- The workspace that holds these files, in the system that is assumed and with a loader that knows
TOML alone. Paths start in the workspace, or at the root. -/
def ofFiles (files : List (String × String)) (environment : List (String × String)) :
    Workspace where
  entry path :=
    let files := files.map fun (name, content) => (components name, content)
    let follow (start : Place) (names : List String) : Entry :=
      (names.foldl (Position.step files) ⟨start, 0⟩).place.entry
    if maxPathSize < path.utf8ByteSize then .missing
    else match components path with
      | [""] => .missing
      | "" :: names => follow (.system []) names
      | names => follow (.inside []) names
  room := maxPathSize - workspaceDepth
  environment
  loader := .tomlAlone

/-- The text that can be read at a path. -/
def read? (w : Workspace) (path : String) : Option String := (w.entry path).content?

/-- There is a file at a path, also when the path is followed from the root. -/
def hasFile (w : Workspace) (path : String) : Bool :=
  (w.entry path).isFile && (path.toList.head? = some '/' || path.utf8ByteSize ≤ w.room)

end Workspace

end QuerySnippet
