/-
The arguments of the command line.

Options stand before the command and are read from left to right, up to the
first that asks for the version or for help, or is wrong. An option's value
follows as an argument of its own, behind `=`, or right behind its letter.
-/

namespace QuerySnippet.CommandLine

/-- What is to be done. -/
inductive Command where
  /-- Show the query section of a request. -/
  | query (request : String)
  /-- Show the type name behind a segment. -/
  | resolve (segment identifier : String) (className : Bool)
  /-- List the languages that have a table. -/
  | languages
  /-- Show what a request holds. -/
  | inspect (request : String)
deriving DecidableEq, Repr

/-- The file that a command reads. -/
def Command.path? : Command → Option String
  | query request => some request
  | resolve segment .. => some segment
  | languages => none
  | inspect request => some request

/-- The options before the command. -/
structure Options where
  config : Option String := none
  language : Option String := none
  expressions : Option String := none
deriving DecidableEq, Repr

/-- A complete command line. -/
structure Invocation where
  options : Options
  command : Command
deriving DecidableEq, Repr

/-- Why there is nothing to be done. -/
inductive Usage where
  | version
  | help
  | wrong
deriving DecidableEq, Repr

/-- An option with a value. -/
inductive OptionName where
  | config
  | language
  | expressions
deriving DecidableEq, Repr

/-- The option with this name. -/
def OptionName.ofName? : List Char → Option OptionName
  | name =>
    if name = "config".toList then some config
    else if name = "language".toList then some language
    else if name = "expressions".toList then some expressions
    else none

/-- The option with this letter. -/
def OptionName.ofLetter? : Char → Option OptionName
  | 'c' => some config
  | 'l' => some language
  | 'e' => some expressions
  | _ => none

/-- Sets an option that has not been set. A path must not be empty. -/
def Options.set (o : Options) (name : OptionName) (value : String) : Except Usage Options :=
  match name with
  | .config =>
    if o.config.isSome ∨ value = "" then .error .wrong else .ok { o with config := some value }
  | .language => if o.language.isSome then .error .wrong else .ok { o with language := some value }
  | .expressions =>
    if o.expressions.isSome ∨ value = "" then .error .wrong
    else .ok { o with expressions := some value }

/-- An argument that stands for itself: it does not begin with a hyphen, or it is one. -/
def isOperand (argument : String) : Bool :=
  match argument.toList with
  | '-' :: _ :: _ => false
  | _ => true

/-- What one argument says of an option. -/
inductive Setting where
  /-- The option has its value with it. -/
  | complete (name : OptionName) (value : String)
  /-- The value is the next argument. -/
  | pending (name : OptionName)

/-- Reads an argument that begins with two hyphens, without them. -/
def longOption (cs : List Char) : Except Usage Setting :=
  match cs.span (· != '=') with
  | (name, value) =>
    match OptionName.ofName? name, value with
    | some option, _ :: value => .ok (.complete option (String.ofList value))
    | some option, [] => .ok (.pending option)
    | none, [] =>
      if name = "version".toList then .error .version
      else if name = "help".toList then .error .help
      else .error .wrong
    | none, _ => .error .wrong

/-- Reads an argument that begins with one hyphen, by the letter behind it and the rest. -/
def shortOption (letter : Char) (rest : List Char) : Except Usage Setting :=
  match OptionName.ofLetter? letter, rest with
  | some option, [] => .ok (.pending option)
  | some option, '=' :: value => .ok (.complete option (String.ofList value))
  | some option, value => .ok (.complete option (String.ofList value))
  | none, _ =>
    if letter = 'V' then .error .version else if letter = 'h' then .error .help else .error .wrong

/-- The operands of a command. -/
structure Operands where
  /-- What stands for itself, in order. -/
  values : List String := []
  /-- The class name has been asked for. -/
  className : Bool := false

/-- Adds an operand, of at most `limit`. The first one is a path, which must not be empty. -/
def Operands.add (limit : Nat) (o : Operands) (value : String) : Except Usage Operands :=
  if limit ≤ o.values.length ∨ (o.values.isEmpty ∧ value = "") then .error .wrong
  else .ok { o with values := o.values ++ [value] }

/-- Reads the operands of a command that takes `limit` of them, and with `named` also the
option for class names. Behind `--` every argument is an operand. -/
def readOperands (limit : Nat) (named : Bool) (o : Operands) :
    List String → Except Usage Operands
  | [] => if o.values.length = limit then .ok o else .error .wrong
  | argument :: rest =>
    if argument = "--" then do
      let o ← rest.foldlM (Operands.add limit) o
      if o.values.length = limit then .ok o else .error .wrong
    else if isOperand argument then do
      let o ← o.add limit argument
      readOperands limit named o rest
    else if argument = "--help" ∨ "-h".toList.isPrefixOf argument.toList then .error .help
    else if argument = "--class-name" ∧ named ∧ !o.className then
      readOperands limit named { o with className := true } rest
    else .error .wrong

/-- The names of the commands. -/
def commandNames : List String := ["query", "resolve", "languages", "inspect", "help"]

/-- Reads a command with its operands. -/
def readCommand (name : String) (arguments : List String) : Except Usage Command :=
  match name with
  | "query" => do
    match (← readOperands 1 false {} arguments).values with
    | [request] => .ok (.query request)
    | _ => .error .wrong
  | "resolve" => do
    let o ← readOperands 2 true {} arguments
    match o.values with
    | [segment, identifier] => .ok (.resolve segment identifier o.className)
    | _ => .error .wrong
  | "languages" => do
    let _ ← readOperands 0 false {} arguments
    .ok .languages
  | "inspect" => do
    match (← readOperands 1 false {} arguments).values with
    | [request] => .ok (.inspect request)
    | _ => .error .wrong
  | "help" =>
    match arguments with
    | [] => .error .help
    | [command] => if command ∈ commandNames then .error .help else .error .wrong
    | _ => .error .wrong
  | _ => .error .wrong

/-- What an argument before the command is. -/
def classify (argument : String) : Option (Except Usage Setting) :=
  match argument.toList with
  | ['-', '-'] => some (.error .wrong)
  | '-' :: '-' :: name => some (longOption name)
  | '-' :: letter :: rest => some (shortOption letter rest)
  | _ => none

/-- Reads the arguments when some options have been read. -/
def readArguments (o : Options) : List String → Except Usage Invocation
  | [] => .error .wrong
  | argument :: rest =>
    match classify argument with
    | none => do
      let command ← readCommand argument rest
      .ok ⟨o, command⟩
    | some (.error usage) => .error usage
    | some (.ok (.complete name value)) => do
      let o ← o.set name value
      readArguments o rest
    | some (.ok (.pending name)) =>
      match rest with
      | [] => .error .wrong
      | value :: rest =>
        if isOperand value then do
          let o ← o.set name value
          readArguments o rest
        else .error .wrong

/-- Reads the arguments. -/
def parse (arguments : List String) : Except Usage Invocation := readArguments {} arguments

end QuerySnippet.CommandLine
