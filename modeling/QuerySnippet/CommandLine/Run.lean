/-
Running a command line: what it prints, and how it ends.
-/
import QuerySnippet.CommandLine.Arguments
import QuerySnippet.Request.Json
import QuerySnippet.Segment.Json
import QuerySnippet.Settings.Load

namespace QuerySnippet.CommandLine

/-- Why a command fails. -/
inductive Failure where
  | error (cause : Error)
  /-- The segment has no type for the identifier. -/
  | noType (identifier segment : String)

/-- The message of a failure, where its text is fixed. -/
def Failure.message : Failure → Option String
  | .error cause => cause.message
  | .noType identifier segment =>
    some ("No type found for " ++ identifier ++ " on segment " ++ segment)

/-- The code that a failed run ends with: 101 if a setting is out of reach, and 1 otherwise. A run
that is broken off for lack of memory has none. -/
def Failure.code? : Failure → Option UInt32
  | .error .outOfReach => some 101
  | .error .outOfMemory => none
  | _ => some 1

/-- How a run ends. -/
structure Outcome where
  /-- The code, unless the run is broken off. -/
  code? : Option UInt32
  /-- All that has been printed by then. -/
  output : String := ""
  failure : Option Failure := none

/-- The settings with the options over them. A language takes the place of a file of expressions
that the settings name. -/
def Options.apply (o : Options) (s : Settings) : Settings :=
  let s := match o.language with
    | some language => { s with language, expressionsFile := none }
    | none => s
  match o.expressions with
  | some path => { s with expressionsFile := some path }
  | none => s

/-- The text of a file. -/
def readFile (w : Workspace) (path : String) : Except Failure String :=
  match w.read? path with
  | some content => .ok content
  | none => .error (.error .io)

/-- Reads a request from a file. -/
def readRequest (w : Workspace) (path : String) : Except Failure Request := do
  (Request.ofJson (← readFile w path)).mapError .error

/-! ## Sessions -/

/-- What is done for a command line. What has been printed stays printed when it fails. -/
abbrev Session := ExceptT Failure (StateM String)

namespace Session

/-- How a session ends that begins when `printed` has been printed, and all that is printed then. -/
def after {α : Type} (x : Session α) (printed : String) : Except Failure α × String :=
  StateT.run (m := Id) (ExceptT.run x) printed

/-- What a session prints, if it does not fail. -/
def output (x : Session Unit) : Except Failure String :=
  match x.after "" with
  | (.ok _, printed) => .ok printed
  | (.error failure, _) => .error failure

/-- Prints a line. -/
def printLine (line : String) : Session Unit := modify fun printed => printed ++ (line ++ "\n")

/-- Prints a list with its label, unless it is empty. -/
def printList (label : String) (items : List String) : Session Unit :=
  if items.isEmpty then pure () else printLine (label ++ ": " ++ Text.quotedList items)

/-- Prints a value with its label, unless it is absent. -/
def printValue (label : String) : Option String → Session Unit
  | none => pure ()
  | some text => printLine (label ++ ": " ++ text)

/-- Prints what a request holds. -/
def printRequest (r : Request) : Session Unit := do
  printLine "Headers:"
  r.headers.entries.forM fun (name, values) =>
    printLine ("  - " ++ name ++ ": " ++ Text.quotedList values)
  printList "Filter" r.filter
  printList "Expand" r.expand
  printList "Select" r.select
  printList "OrderBy" r.orderBy
  printValue "Search" r.search
  printValue "Skip" (r.paging.skip.map Section.decimal)
  printValue "SkipToken" r.skipToken
  printValue "Top" (r.paging.top.map Section.decimal)

end Session

open Session

/-- Does what a command asks for under the settings. -/
def Command.perform (w : Workspace) (s : Settings) : Command → Session Unit
  | .languages => Language.all.forM fun l => printLine l.name
  | .inspect path => do
    let request ← readRequest w path
    printRequest request
  | .query path => do
    (s.validate w).mapError Failure.error
    let request ← readRequest w path
    let text ← (s.querySection w request).mapError Failure.error
    printLine text
  | .resolve path identifier asClass => do
    let content ← readFile w path
    let segment ← (Segment.ofJson content).mapError Failure.error
    match segment.typeName (s.classNames || asClass) identifier with
    | some name => printLine name
    | none => throw (.noType identifier segment.identifier)

/-- Does what an invocation asks for. -/
def Invocation.perform (w : Workspace) (i : Invocation) : Session Unit := do
  let settings ← (Settings.load w i.options.config).mapError Failure.error
  i.command.perform w (i.options.apply settings)

/-- What a command prints under the settings, if it does not fail. -/
def Command.output (w : Workspace) (s : Settings) (c : Command) : Except Failure String :=
  (c.perform w s).output

/-- What an invocation prints, if it does not fail. -/
def Invocation.output (w : Workspace) (i : Invocation) : Except Failure String :=
  (i.perform w).output

/-- The version of the program. -/
def versionLine : String := "odata-snippets 0.1.0\n"

/-- How the program is used. It stands in for the text that the reader of command lines makes of its
declarations, which is longer and has one for each command. -/
def helpText : String :=
  "Render the query section of OData code snippets\n\n"
    ++ "Usage: odata-snippets [OPTIONS] <COMMAND>\n\n"
    ++ "Commands:\n"
    ++ "  query REQUEST                                 Print the query section of a request\n"
    ++ "  resolve SEGMENT IDENTIFIER [--class-name]     Print the type name behind a segment\n"
    ++ "  languages                                     List the built-in languages\n"
    ++ "  inspect REQUEST                               Show what a request holds\n\n"
    ++ "Options:\n"
    ++ "  -c, --config PATH        Settings in TOML\n"
    ++ "  -l, --language NAME      Built-in language\n"
    ++ "  -e, --expressions PATH   Table of expressions in TOML\n"
    ++ "  -h, --help               Print help\n"
    ++ "  -V, --version            Print version\n"

/-- Runs a command line. -/
def run (w : Workspace) (arguments : List String) : Outcome :=
  match parse arguments with
  | .error .version => { code? := some 0, output := versionLine }
  | .error .help => { code? := some 0, output := helpText }
  | .error .wrong => { code? := some 2 }
  | .ok invocation =>
    match (invocation.perform w).after "" with
    | (.ok _, output) => { code? := some 0, output }
    | (.error failure, output) => { code? := failure.code?, output, failure := some failure }

end QuerySnippet.CommandLine
