/-
The program: it looks up the files that its arguments may lead to, runs the
arguments over them, and prints what came out. It reads settings in TOML alone.
-/
import QuerySnippet.CommandLine.Run

namespace QuerySnippet

/-- What stands at a path. -/
def readEntry (path : String) : IO Entry := do
  let found : IO IO.FS.Metadata := do (← IO.FS.realPath path).metadata
  match ← found.toBaseIO with
  | .error _ => pure .missing
  | .ok metadata =>
    match ← (IO.FS.readBinFile path).toBaseIO, metadata.type with
    | .error _, .file => pure .unreadable
    | .ok bytes, .file => pure (.ofBytes bytes)
    | .error _, _ => pure .directory
    | .ok bytes, _ => pure ((String.fromUTF8? bytes).elim .directory .device)

/-- The workspace that holds what stands at these paths. -/
def lookUp (paths : List String) (environment : List (String × String)) : IO Workspace := do
  let entries ← paths.mapM fun path => do pure (path, ← readEntry path)
  let directory := toString (← IO.currentDir)
  pure {
    entry := fun path => (entries.lookup path).getD .missing
    room := Workspace.maxPathSize - (directory.utf8ByteSize + 1)
    environment
    loader := .tomlAlone }

/-- The variables of the process. -/
def readEnvironment : IO (List (String × String)) := do
  match ← readEntry "/proc/self/environ" with
  | .file content =>
    pure ((content.toList.splitOn '\x00').filterMap fun entry =>
      match entry.span (· != '=') with
      | (name, _ :: value) => some (String.ofList name, String.ofList value)
      | _ => none)
  | _ => pure []

/-- The paths at which settings may stand. -/
def settingsPaths (config : Option String) : List String :=
  let path := config.getD Settings.defaultFile
  path :: Settings.Loader.tomlAlone.formats.filterMap fun (extension, _) =>
    Settings.extended? path extension

/-- The paths at which an invocation may look. They are known when the settings are. -/
def pathsOf (w : Workspace) (i : CommandLine.Invocation) : List String :=
  let settings := (Settings.load w i.options.config).toOption.map i.options.apply
  settingsPaths i.options.config ++ i.command.path?.toList
    ++ (settings.bind (·.expressionsFile)).toList

/-- The code of a run that is broken off. -/
def brokenOff : UInt32 := 134

end QuerySnippet

open QuerySnippet in
/-- Runs the program. -/
def main (arguments : List String) : IO UInt32 := do
  let environment ← readEnvironment
  let workspace ← match CommandLine.parse arguments with
    | .ok invocation => do
      let w ← lookUp (settingsPaths invocation.options.config) environment
      lookUp (pathsOf w invocation) environment
    | .error _ => lookUp [] environment
  let outcome := CommandLine.run workspace arguments
  IO.print outcome.output
  match outcome.failure with
  | some failure => IO.eprintln ("Error: " ++ failure.message.getD "the input cannot be read")
  | none =>
    if outcome.code? = some 2 then IO.eprint CommandLine.helpText
  pure (outcome.code?.getD brokenOff)
