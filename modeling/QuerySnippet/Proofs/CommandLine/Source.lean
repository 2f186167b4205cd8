/-
Where the table of a query comes from.

A table is read from a file or is the one of a language that is named. Options,
variables, the file of settings and the defaults may each say so, and `ranking`
puts what they say in the order in which it counts. The order is not one layer
after another: a file of expressions in the file of settings goes before a
language in the environment, but the language of an option goes before both.
The first that says anything is the source (`ranking_findSome?`), and nothing
behind it can be seen: not in the check, not in the table and not in the output.

An option names what it says. A variable that spells a truth value or a number
names that value as it is written anew (`spelled`), which can be something else.
-/
import QuerySnippet.Proofs.CommandLine.Session
import QuerySnippet.Proofs.Settings.Layer

namespace QuerySnippet.CommandLine

open Settings (Layer spelled variableFor? variableMark)

/-- Where a table comes from. -/
inductive Source where
  /-- A file with a table. -/
  | file (path : String)
  /-- A language with a table of its own, by its name. -/
  | preset (name : String)
deriving DecidableEq, Repr

namespace Source

variable (w : Workspace)

/-- Checks that there is such a file, or such a language. -/
def check : Source → Except Error Unit
  | file path => if (w.entry path).isPresent then .ok () else .error (.expressionsFileMissing path)
  | preset name =>
    if Text.trimmed name = "" then .error .languageRequired
    else match Language.parse name with
      | .ok _ => .ok ()
      | .error e => .error e

/-- The table in the file, or of the language. -/
def table : Source → Except Error Expressions
  | file path =>
    match w.read? path with
    | some content => Expressions.ofToml content
    | none => .error .io
  | preset name => Language.expressions <$> Language.parse name

/-- The query section of the request in a file by the table, as it is printed. -/
def output (request : String) (source : Source) : Except Failure String := do
  (source.check w).mapError .error
  let r ← readRequest w request
  let table ← (source.table w).mapError .error
  let text ← (querySection table r).mapError .error
  pure (text ++ "\n")

/-- The source that settings name. -/
def ofSettings (s : Settings) : Source :=
  match s.expressionsFile with
  | some path => file path
  | none => preset s.language

theorem validate_eq (s : Settings) : s.validate w = (ofSettings s).check w := by
  unfold Settings.validate ofSettings
  cases s.expressionsFile with
  | some path => rfl
  | none =>
    simp only [check, Settings.preset]
    cases Language.parse s.language <;> rfl

theorem expressions_eq (s : Settings) : s.expressions w = (ofSettings s).table w := by
  unfold Settings.expressions ofSettings
  cases s.expressionsFile with
  | some path => rfl
  | none =>
    simp only [table, Settings.preset]
    cases Language.parse s.language with
    | error e => rfl
    | ok l => exact l.read_texts

theorem query_output_eq (s : Settings) (request : String) :
    Command.output w s (.query request) = (ofSettings s).output w request := by
  simp only [Command.output_eq, Command.shown, output, Settings.querySection, validate_eq,
    expressions_eq]
  cases (ofSettings s).table w <;> rfl

/-- Nothing of the surroundings counts but what stands at the path of the source. -/
theorem congr_of_entry {w w' : Workspace} {source : Source}
    (h : ∀ path, source = .file path → w'.entry path = w.entry path) :
    source.check w' = source.check w ∧ source.table w' = source.table w := by
  cases source with
  | file path => simp only [check, table, Workspace.read?, h path rfl, and_self]
  | preset name => exact ⟨rfl, rfl⟩

theorem output_congr {w w' : Workspace} {source : Source} {request : String}
    (h : ∀ path, source = .file path → w'.entry path = w.entry path)
    (hrequest : w'.entry request = w.entry request) :
    source.output w' request = source.output w request := by
  simp only [output, congr_of_entry h, readRequest, readFile, Workspace.read?, hrequest]

end Source

/-- What may name the source of the table, in the order in which it counts: options, and then files
of expressions before languages, the environment before the file of settings. -/
def ranking (o : Options) (file : Layer) (environment : List (String × String)) :
    List (Option Source) := [
  o.expressions.map .file,
  o.language.map .preset,
  (variableFor? environment "expressions_file").map fun value => .file (spelled value),
  (file.text? "expressions_file").map .file,
  (variableFor? environment "language").map fun value => .preset (spelled value),
  (file.text? "language").map .preset,
  some (.preset "csharp")]

variable {w : Workspace} {o : Options} {s : Settings} {file : Layer}

theorem ranking_findSome? (hfile : Settings.fileLayer w o.config = .ok file)
    (h : Settings.load w o.config = .ok s) :
    (ranking o file w.environment).findSome? id = some (.ofSettings (o.apply s)) := by
  have hlayer : Settings.ofLayer w.loader (file ++ Layer.ofEnvironment w.environment) = .ok s := by
    rw [Settings.load, hfile] at h
    exact h
  obtain ⟨hlanguage, hexpressions⟩ := Settings.text?_of_ofLayer hlayer
  rw [Settings.text?_append_ofEnvironment] at hlanguage hexpressions
  unfold ranking Options.apply Source.ofSettings
  cases o.expressions with
  | some path => cases o.language <;> rfl
  | none =>
  cases o.language with
  | some name => rfl
  | none =>
  rw [hlanguage, hexpressions]
  cases variableFor? w.environment "expressions_file" with
  | some path => rfl
  | none =>
  cases file.text? "expressions_file" with
  | some path => rfl
  | none =>
  cases variableFor? w.environment "language" with
  | some name => rfl
  | none => cases file.text? "language" <;> rfl

/-- The source is the first that is named. -/
theorem ofSettings_eq_of_first {higher lower : List (Option Source)} {source : Source}
    (hfile : Settings.fileLayer w o.config = .ok file) (h : Settings.load w o.config = .ok s)
    (hranking : ranking o file w.environment = higher ++ some source :: lower)
    (hhigher : ∀ rank ∈ higher, rank = none) : Source.ofSettings (o.apply s) = source := by
  have hfirst : (ranking o file w.environment).findSome? id = some source :=
    List.findSome?_eq_some_iff.2 ⟨higher, some source, lower, hranking, rfl, hhigher⟩
  rw [ranking_findSome? hfile h] at hfirst
  exact Option.some.inj hfirst

/-- The check, the table and the output of a query are those of a source. -/
structure Follows (w : Workspace) (o : Options) (s : Settings) (source : Source) : Prop where
  check : (o.apply s).validate w = source.check w
  table : (o.apply s).expressions w = source.table w
  output : ∀ request, Invocation.output w ⟨o, .query request⟩ = source.output w request

theorem follows_ofSettings (h : Settings.load w o.config = .ok s) :
    Follows w o s (.ofSettings (o.apply s)) where
  check := Source.validate_eq w _
  table := Source.expressions_eq w _
  output request := by
    rw [Invocation.output_eq, Invocation.shown, h]
    exact (Command.output_eq _).symm.trans (Source.query_output_eq w _ request)

/-- **A query goes by the first source that is named**, and by nothing behind it: a second run that
names the same source, with nothing before it and anything after it, and finds the same at its path,
checks the same, has the same table and prints the same. A variable behind it may name any language
and any file. -/
theorem query_follows_first_source (h : Settings.load w o.config = .ok s) :
    ∃ file, Settings.fileLayer w o.config = .ok file ∧
      (∃ higher source lower, ranking o file w.environment = higher ++ some source :: lower ∧
        ∀ rank ∈ higher, rank = none) ∧
      (∀ higher source lower, ranking o file w.environment = higher ++ some source :: lower →
        (∀ rank ∈ higher, rank = none) →
        Follows w o s source ∧
        ∀ w' o' s' file' lower', Settings.load w' o'.config = .ok s' →
          Settings.fileLayer w' o'.config = .ok file' →
          ranking o' file' w'.environment = higher ++ some source :: lower' →
          (∀ path, source = .file path → w'.entry path = w.entry path) →
          (o'.apply s').validate w' = (o.apply s).validate w ∧
          (o'.apply s').expressions w' = (o.apply s).expressions w ∧
          ∀ request, w'.entry request = w.entry request →
            Invocation.output w' ⟨o', .query request⟩ = Invocation.output w ⟨o, .query request⟩) ∧
      ∀ name value, Text.lowercased name = "odata_snippets_language" ∨
          Text.lowercased name = "odata_snippets_expressions_file" →
        ∃ s', Settings.load { w with environment := w.environment ++ [(name, value)] } o.config =
          .ok s' := by
  obtain ⟨file, hfile, -⟩ := Except.bind_eq_ok.1 h
  refine ⟨file, hfile, ?named, ?follows, ?loads⟩
  case named =>
    obtain ⟨higher, _, lower, hranking, rfl, hhigher⟩ :=
      List.findSome?_eq_some_iff.1 (ranking_findSome? hfile h)
    exact ⟨higher, _, lower, hranking, hhigher⟩
  case follows =>
    intro higher source lower hranking hhigher
    have hfollows : Follows w o s source :=
      ofSettings_eq_of_first hfile h hranking hhigher ▸ follows_ofSettings h
    refine ⟨hfollows, ?_⟩
    intro w' o' s' file' lower' h' hfile' hranking' hentry
    have hfollows' : Follows w' o' s' source :=
      ofSettings_eq_of_first hfile' h' hranking' hhigher ▸ follows_ofSettings h'
    obtain ⟨hcheck, htable⟩ := Source.congr_of_entry hentry
    refine ⟨?_, ?_, fun request hrequest => ?_⟩
    · rw [hfollows'.check, hfollows.check, hcheck]
    · rw [hfollows'.table, hfollows.table, htable]
    · rw [hfollows'.output, hfollows.output, Source.output_congr hentry hrequest]
  case loads =>
    rintro name value (hname | hname)
    · have hmark : Text.lowercased name = String.ofList variableMark ++ "language" :=
        hname.trans (by decide +kernel)
      exact Settings.exists_load_of_variable h hmark (by decide +kernel) (by decide) value
    · have hmark : Text.lowercased name = String.ofList variableMark ++ "expressions_file" :=
        hname.trans (by decide +kernel)
      exact Settings.exists_load_of_variable h hmark (by decide +kernel) (by decide) value

/-- Settings in which a file names a language and a table, and a variable names this language. -/
def layered (language : String) : Workspace :=
  .ofFiles [("c.toml", "language = 'js'\nexpressions_file = 't'\n")]
    [("ODATA_SNIPPETS_LANGUAGE", language)]

/-- The options that give that file. -/
def layeredOptions : Options := { config := some "c.toml" }

theorem query_follows_file_over_language :
    ∃ s s', Settings.load (layered "java") layeredOptions.config = .ok s ∧
      Settings.load (layered "cobol") layeredOptions.config = .ok s' ∧
      Follows (layered "java") layeredOptions s (.file "t") ∧
      (layeredOptions.apply s').validate (layered "cobol") =
        (layeredOptions.apply s).validate (layered "java") ∧
      (layeredOptions.apply s').expressions (layered "cobol") =
        (layeredOptions.apply s).expressions (layered "java") ∧
      ∀ request, Invocation.output (layered "cobol") ⟨layeredOptions, .query request⟩ =
        Invocation.output (layered "java") ⟨layeredOptions, .query request⟩ := by
  have hload : ∀ language ∈ ["java", "cobol"],
      Settings.load (layered language) layeredOptions.config =
        .ok { language, expressionsFile := some "t" } := by
    simp only [← Except.toOption_eq_some_iff]
    decide +kernel
  have hranking : ∀ language ∈ ["java", "cobol"],
      ∃ file, Settings.fileLayer (layered language) layeredOptions.config = .ok file ∧
        ranking layeredOptions file (layered language).environment =
          [none, none, none] ++ some (.file "t") ::
            [some (.preset language), some (.preset "js"), some (.preset "csharp")] := by
    simp only [← Except.toOption_eq_some_iff, ← Option.map_eq_some_iff]
    decide +kernel
  obtain ⟨file', hfile', hranking'⟩ := hranking "cobol" (by simp)
  obtain ⟨file, hfile, hranking⟩ := hranking "java" (by simp)
  obtain ⟨_, hsame, -, hfollows, -⟩ := query_follows_first_source (hload "java" (by simp))
  obtain rfl : _ = file := Except.ok.inj (hsame.symm.trans hfile)
  obtain ⟨hsource, hother⟩ := hfollows _ _ _ hranking (by simp)
  obtain ⟨hcheck, htable, houtput⟩ := hother (layered "cobol") layeredOptions _ file' _
    (hload "cobol" (by simp)) hfile' hranking' fun _ _ => rfl
  exact ⟨_, _, hload "java" (by simp), hload "cobol" (by simp), hsource, hcheck, htable,
    fun request => houtput request rfl⟩

/-! ## A variable that spells a number -/

/-- The value is a table of expressions whose members stand in the order of their names. -/
def isOrderedTable : Toml.Value → Bool
  | .table members =>
    (Toml.Value.table members).isSound &&
      decide ((Toml.Value.memberDocuments members).Pairwise fun a b => a.1 ≤ b.1) &&
      (Expressions.record.ofMembers (Toml.Value.memberDocuments members)).toOption.isSome
  | _ => false

theorem exists_ofToml_of_ordered {text : String}
    (h : (Toml.parse .dotted text.toList).any isOrderedTable = true) :
    ∃ table, Expressions.ofToml text = .ok table := by
  obtain ⟨value, hparse, hvalue⟩ := (Option.any_eq_true _ _).1 h
  cases value with
  | table members =>
    simp only [isOrderedTable, Bool.and_eq_true, decide_eq_true_eq] at hvalue
    obtain ⟨⟨hsound, hordered⟩, hrecord⟩ := hvalue
    obtain ⟨table, htable⟩ := Option.isSome_iff_exists.1 hrecord
    have hsorted : Toml.Value.sorted (Toml.Value.memberDocuments members) =
        Toml.Value.memberDocuments members :=
      List.mergeSort_of_pairwise (by simpa using hordered)
    refine ⟨table, ?_⟩
    rw [Expressions.ofToml, Toml.decode, hparse]
    simp only [hsound, if_true, Toml.Value.toDocument, hsorted, Record.read,
      Except.toOption_eq_some_iff.1 htable]
    rfl
  | _ => cases hvalue

/-- A table with its members in order. -/
def orderedTable : String :=
  "expand = ''\nfilter = ''\nheader = ''\norder_by = ''\nsearch = ''\nselect = ''\nskip = ''\n"
    ++ "skip_token = ''\ntop = 'T(\x7b0\x7d)'\n"

/-- A file whose name is a number, and a variable that names it. -/
def numbered : Workspace :=
  .ofFiles [("007", orderedTable)] [("ODATA_SNIPPETS_EXPRESSIONS_FILE", "007")]

/-- A variable does not name the file of its own text when that spells a number: the number written
anew names another. -/
theorem number_names_other_file :
    ∃ s table, Settings.load numbered none = .ok s ∧
      variableFor? numbered.environment "expressions_file" = some "007" ∧
      (Source.file "007").check numbered = .ok () ∧
      (Source.file "007").table numbered = .ok table ∧
      (({} : Options).apply s).validate numbered = .error (.expressionsFileMissing "7") ∧
      (({} : Options).apply s).expressions numbered = .error .io := by
  have hload : Settings.load numbered none = .ok { expressionsFile := some "7" } :=
    Except.toOption_eq_some_iff.1 (by decide +kernel)
  have hmissing : numbered.entry "7" = .missing := by decide +kernel
  have hentry : numbered.entry "007" = .file orderedTable := by decide +kernel
  obtain ⟨table, htable⟩ : ∃ table, Expressions.ofToml orderedTable = .ok table :=
    exists_ofToml_of_ordered (by decide +kernel)
  refine ⟨_, table, hload, by decide +kernel, ?_, ?_, ?_, ?_⟩
  · rw [Source.check, hentry]
    rfl
  · rw [Source.table, Workspace.read?, hentry]
    exact htable
  · rw [Source.validate_eq]
    simp [Source.ofSettings, Options.apply, Source.check, hmissing, Entry.isPresent]
  · rw [Source.expressions_eq]
    simp [Source.ofSettings, Options.apply, Source.table, Workspace.read?, hmissing, Entry.content?]

end QuerySnippet.CommandLine
