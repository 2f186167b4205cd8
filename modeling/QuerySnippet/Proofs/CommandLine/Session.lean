/-
What a session shows.

A session is whole when it prints all it has to show after the last step that
can fail (`Session.Whole`), so one that fails has printed nothing. Every command
is whole, and `run_shows_whole` says what it shows. A query fails by the first
of its stages that fails on its own (`Stage.failure?`), whatever the later ones
would find.
-/
import QuerySnippet.CommandLine.Run
import QuerySnippet.Proofs.Outcome
import QuerySnippet.Proofs.Section

namespace QuerySnippet.CommandLine

/-! ## Whole sessions -/

namespace Session

section Whole

variable {α : Type} {x y : Session Unit} {e : Except Failure α} {k : α → Session Unit}
  {text text' : String} {outcome : Except Failure String} {outcomes : α → Except Failure String}

/-- The session prints a text and ends well, or prints nothing and fails, as the outcome says. -/
def Whole (x : Session Unit) (outcome : Except Failure String) : Prop :=
  ∀ printed, x.after printed = match outcome with
    | .ok text => (.ok (), printed ++ text)
    | .error failure => (.error failure, printed)

theorem Whole.output_eq (h : Whole x outcome) : x.output = outcome := by
  rw [output, h ""]
  cases outcome with
  | error failure => rfl
  | ok text => exact congrArg Except.ok (String.empty_append ..)

theorem whole_throw (failure : Failure) : Whole (throw failure) (.error failure) := fun _ => rfl

theorem whole_pure : Whole (pure ()) (.ok "") := fun _ =>
  congrArg (Prod.mk (Except.ok ())) (String.append_empty ..).symm

theorem whole_printLine (line : String) : Whole (printLine line) (.ok (line ++ "\n")) :=
  fun _ => rfl

/-- A step that can fail, and prints nothing, may stand before a session that is whole. -/
theorem whole_lift_bind (h : ∀ a, Whole (k a) (outcomes a)) :
    Whole (liftM e >>= k) (e >>= outcomes) := by
  intro printed
  cases e with
  | error failure => rfl
  | ok a => exact h a printed

theorem after_bind (x : Session α) (k : α → Session Unit) (printed : String) :
    (x >>= k).after printed = match x.after printed with
      | (.ok a, printed') => (k a).after printed'
      | (.error failure, printed') => (.error failure, printed') := by
  cases h : x.after printed with
  | mk ending printed' =>
  have hrun : StateT.run (m := Id) (ExceptT.run x) printed = (ending, printed') := h
  rw [after, ExceptT.run_bind, StateT.run_bind]
  change (fun p => _) (StateT.run (m := Id) (ExceptT.run x) printed) = _
  rw [hrun]
  cases ending <;> rfl

/-- What cannot fail may stand before what cannot fail. -/
theorem Whole.append (hx : Whole x (.ok text)) (hy : Whole y (.ok text')) :
    Whole (x >>= fun _ => y) (.ok (text ++ text')) := by
  intro printed
  rw [after_bind, hx printed]
  exact (hy (printed ++ text)).trans (congrArg (Prod.mk (Except.ok ())) (String.append_assoc ..))

/-- Lines are printed one behind the other. -/
theorem whole_forM_printLine {β : Type} (line : β → String) : ∀ items : List β,
    Whole (items.forM fun item => printLine (line item))
      (.ok (String.join (items.map fun item => line item ++ "\n")))
  | [] => whole_pure
  | item :: items => by
    rw [List.map_cons, String.join_cons]
    exact (whole_printLine _).append (whole_forM_printLine line items)

end Whole

/-! ## What a request holds -/

/-- A list with its label, unless it is empty. -/
def listLine (label : String) (items : List String) : String :=
  if items.isEmpty then "" else label ++ ": " ++ Text.quotedList items ++ "\n"

/-- A value with its label, unless it is absent. -/
def valueLine (label : String) : Option String → String
  | none => ""
  | some text => label ++ ": " ++ text ++ "\n"

/-- What a request holds, line by line. -/
def inspection (r : Request) : String :=
  String.join [
    "Headers:" ++ "\n",
    String.join (r.headers.entries.map fun (name, values) =>
      "  - " ++ name ++ ": " ++ Text.quotedList values ++ "\n"),
    listLine "Filter" r.filter,
    listLine "Expand" r.expand,
    listLine "Select" r.select,
    listLine "OrderBy" r.orderBy,
    valueLine "Search" r.search,
    valueLine "Skip" (r.paging.skip.map Section.decimal),
    valueLine "SkipToken" r.skipToken,
    valueLine "Top" (r.paging.top.map Section.decimal)]

theorem whole_printList (label : String) (items : List String) :
    Whole (printList label items) (.ok (listLine label items)) := by
  unfold printList listLine
  split
  · exact whole_pure
  · exact whole_printLine _

theorem whole_printValue (label : String) (value : Option String) :
    Whole (printValue label value) (.ok (valueLine label value)) := by
  cases value with
  | none => exact whole_pure
  | some text => exact whole_printLine _

theorem whole_printRequest (r : Request) : Whole (printRequest r) (.ok (inspection r)) := by
  have hlines := (whole_printLine "Headers:").append
    ((whole_forM_printLine (fun (name, values) =>
      "  - " ++ name ++ ": " ++ Text.quotedList values) r.headers.entries).append
    ((whole_printList "Filter" r.filter).append
    ((whole_printList "Expand" r.expand).append
    ((whole_printList "Select" r.select).append
    ((whole_printList "OrderBy" r.orderBy).append
    ((whole_printValue "Search" r.search).append
    ((whole_printValue "Skip" (r.paging.skip.map Section.decimal)).append
    ((whole_printValue "SkipToken" r.skipToken).append
    (whole_printValue "Top" (r.paging.top.map Section.decimal))))))))))
  simp only [inspection, String.join_cons, String.join_nil, String.append_empty]
  exact hlines

end Session

/-! ## Commands -/

open Session

/-- What a command shows under the settings. -/
def Command.shown (w : Workspace) (s : Settings) : Command → Except Failure String
  | .languages => .ok (String.join (Language.all.map fun l => l.name ++ "\n"))
  | .inspect path => do
    let request ← readRequest w path
    pure (inspection request)
  | .query path => do
    (s.validate w).mapError .error
    let request ← readRequest w path
    let text ← (s.querySection w request).mapError .error
    pure (text ++ "\n")
  | .resolve path identifier asClass => do
    let content ← readFile w path
    let segment ← (Segment.ofJson content).mapError .error
    match segment.typeName (s.classNames || asClass) identifier with
    | some name => pure (name ++ "\n")
    | none => .error (.noType identifier segment.identifier)

variable {w : Workspace} {s : Settings} {i : Invocation}

/-- Every command prints all it has to show, or fails before it prints. -/
theorem Command.whole_perform (c : Command) : Whole (c.perform w s) (c.shown w s) := by
  cases c with
  | languages => exact whole_forM_printLine Language.name Language.all
  | inspect path => exact whole_lift_bind whole_printRequest
  | query path =>
    exact whole_lift_bind fun _ => whole_lift_bind fun _ => whole_lift_bind whole_printLine
  | resolve path identifier asClass =>
    refine whole_lift_bind fun content => whole_lift_bind fun segment => ?_
    cases segment.typeName (s.classNames || asClass) identifier with
    | some name => exact whole_printLine name
    | none => exact whole_throw _

theorem Command.output_eq (c : Command) : c.output w s = c.shown w s := c.whole_perform.output_eq

/-- What an invocation shows. -/
def Invocation.shown (w : Workspace) (i : Invocation) : Except Failure String := do
  let s ← (Settings.load w i.options.config).mapError .error
  i.command.shown w (i.options.apply s)

theorem Invocation.whole_perform : Whole (i.perform w) (i.shown w) :=
  whole_lift_bind fun _ => i.command.whole_perform

theorem Invocation.output_eq : i.output w = i.shown w := i.whole_perform.output_eq

/-- A run ends as its session does, with what this has to show. -/
theorem run_of_parse {arguments : List String} (h : parse arguments = .ok i) :
    run w arguments = match i.shown w with
      | .ok output => { code? := some 0, output }
      | .error failure => { code? := failure.code?, failure := some failure } := by
  have hwhole := i.whole_perform (w := w) ""
  simp only [run, h, hwhole]
  cases i.shown w with
  | error failure => rfl
  | ok text => exact congrArg (Outcome.mk _ · _) (String.empty_append ..)

theorem Failure.code?_ne_zero (failure : Failure) : failure.code? ≠ some 0 := by
  cases failure with
  | error cause => cases cause <;> simp [Failure.code?]
  | noType => simp [Failure.code?]

/-! ## Stages of a query -/

/-- How a step fails, if it does. -/
def error? {ε α : Type} : Except ε α → Option ε
  | .ok _ => none
  | .error e => some e

/-- The first name without values, but for the host. -/
def missing? (entries : List (String × List String)) : Option String :=
  (entries.find? fun entry => ¬ Section.NamesHost entry.1 ∧ entry.2 = []).map (·.1)

/-- What can fail in a query. -/
inductive Stage where
  /-- The settings are loaded. -/
  | load
  /-- The settings are checked. -/
  | check
  /-- The request is read and decoded. -/
  | request
  /-- The table is loaded. -/
  | table
  /-- Every header has a value. -/
  | headers

/-- The stages in the order in which a query comes to them. -/
def Stage.all : List Stage := [load, check, request, table, headers]

/-- How a stage fails, if it does, whatever becomes of the others. A stage that needs what another
has failed to load has nothing to fail for. -/
def Stage.failure? (w : Workspace) (o : Options) (path : String) : Stage → Option Failure
  | load => (error? (Settings.load w o.config)).map .error
  | check => settings?.bind fun s => (error? (s.validate w)).map .error
  | request => error? (readRequest w path)
  | table => settings?.bind fun s => (error? (s.expressions w)).map .error
  | headers => (readRequest w path).toOption.bind fun r =>
    (missing? r.headers.entries).map fun name => .error (.missingHeaderValue name)
where
  settings? : Option Settings := (Settings.load w o.config).toOption.map o.apply

theorem missing?_eq_none_iff {entries : List (String × List String)} :
    missing? entries = none ↔ Section.HasValues entries := by
  simp [missing?, Section.HasValues]

theorem error?_querySection (e : Expressions) (r : Request) :
    error? (querySection e r) = (missing? r.headers.entries).map .missingHeaderValue := by
  by_cases h : Section.HasValues r.headers.entries
  · rw [querySection_of_hasValues e h, missing?_eq_none_iff.2 h]
    rfl
  · obtain ⟨before, name, after, hentries, hb, hn⟩ := Section.exists_missing_of_not_hasValues h
    have hbefore := missing?_eq_none_iff.2 hb
    have hsome : missing? r.headers.entries = some name := by
      rw [missing?, Option.map_eq_none_iff] at hbefore
      rw [missing?, hentries, List.find?_append, hbefore, Option.none_or,
        List.find?_cons_of_pos (by simp [hn])]
      rfl
    rw [querySection_of_missing e hentries hb hn, hsome]
    rfl

/-- A query fails as the first of its stages that fails. -/
theorem error?_query {path : String} (h : i.command = .query path) :
    error? (i.shown w) = Stage.all.findSome? (Stage.failure? w i.options path) := by
  obtain ⟨o, _⟩ := i
  cases h
  simp only [Invocation.shown, Stage.all, List.findSome?_cons, List.findSome?_nil, Stage.failure?,
    Stage.failure?.settings?]
  cases Settings.load w o.config with
  | error cause => rfl
  | ok s =>
  change error? (Command.shown w (o.apply s) (.query path)) = _
  simp only [Command.shown, Except.toOption, Option.map_some, Option.bind_some,
    Settings.querySection]
  cases (o.apply s).validate w with
  | error cause => rfl
  | ok _ =>
  cases readRequest w path with
  | error failure => rfl
  | ok r =>
  cases (o.apply s).expressions w with
  | error cause => rfl
  | ok table =>
  have hheaders := error?_querySection table r
  simp only [bind, Except.bind, Except.mapError, error?, Option.map_none, Option.bind_some]
  cases hsection : querySection table r with
  | error cause =>
    rw [hsection] at hheaders
    obtain ⟨name, hname, rfl⟩ := Option.map_eq_some_iff.1 hheaders.symm
    rw [hname]
    rfl
  | ok text =>
    rw [hsection] at hheaders
    rw [Option.map_eq_none_iff.1 hheaders.symm]
    rfl

/-! ## Runs -/

/-- The settings with all options over them, that of the command included. -/
def Invocation.settings (i : Invocation) (s : Settings) : Settings :=
  match i.command with
  | .resolve _ _ true => { i.options.apply s with classNames := true }
  | _ => i.options.apply s

theorem Invocation.classNames_settings (o : Options) (s : Settings) (path identifier : String)
    (asClass : Bool) : (settings ⟨o, .resolve path identifier asClass⟩ s).classNames =
      ((o.apply s).classNames || asClass) := by
  cases asClass <;> simp [settings]

/-- What a command has to show under the settings. -/
inductive Shows (w : Workspace) (s : Settings) : Command → String → Prop
  /-- The names of all languages. -/
  | languages : Shows w s .languages (String.join (Language.all.map fun l => l.name ++ "\n"))
  /-- What the request in the file holds. -/
  | inspect {path content request} : w.read? path = some content →
      Request.ofJson content = .ok request → Shows w s (.inspect path) (inspection request)
  /-- The query section of the request in the file, and a line end. -/
  | query {path content request text} : w.read? path = some content →
      Request.ofJson content = .ok request → s.querySection w request = .ok text →
      Shows w s (.query path) (text ++ "\n")
  /-- The type name behind the segment in the file, and a line end. -/
  | resolve {path identifier asClass content segment name} : w.read? path = some content →
      Segment.ofJson content = .ok segment → segment.typeName s.classNames identifier = some name →
      Shows w s (.resolve path identifier asClass) (name ++ "\n")

theorem readFile_eq_ok {path content : String} :
    readFile w path = .ok content ↔ w.read? path = some content := by
  unfold readFile
  split
  · next h => rw [h, Except.ok.injEq, Option.some.injEq]
  · next h => rw [h]; exact ⟨nofun, nofun⟩

theorem readRequest_eq_ok {path : String} {r : Request} : readRequest w path = .ok r ↔
    ∃ content, w.read? path = some content ∧ Request.ofJson content = .ok r := by
  rw [readRequest, Except.bind_eq_ok]
  simp only [readFile_eq_ok, Except.mapError_eq_ok]

theorem shows_of_shown {text : String} (h : i.shown w = .ok text) :
    ∃ s, Settings.load w i.options.config = .ok s ∧ Shows w (i.settings s) i.command text := by
  obtain ⟨s, hload, hcommand⟩ := Except.bind_eq_ok.1 h
  refine ⟨s, Except.mapError_eq_ok.1 hload, ?_⟩
  obtain ⟨o, command⟩ := i
  cases command with
  | languages =>
    cases hcommand
    exact .languages
  | inspect path =>
    obtain ⟨r, hread, hshown⟩ := Except.bind_eq_ok.1 hcommand
    obtain ⟨content, hfile, hrequest⟩ := readRequest_eq_ok.1 hread
    cases hshown
    exact .inspect hfile hrequest
  | query path =>
    obtain ⟨_, -, hcommand⟩ := Except.bind_eq_ok.1 hcommand
    obtain ⟨r, hread, hcommand⟩ := Except.bind_eq_ok.1 hcommand
    obtain ⟨rendered, hrendered, hshown⟩ := Except.bind_eq_ok.1 hcommand
    obtain ⟨content, hfile, hrequest⟩ := readRequest_eq_ok.1 hread
    cases hshown
    exact .query hfile hrequest (Except.mapError_eq_ok.1 hrendered)
  | resolve path identifier asClass =>
    obtain ⟨content, hfile, hcommand⟩ := Except.bind_eq_ok.1 hcommand
    obtain ⟨segment, hsegment, hshown⟩ := Except.bind_eq_ok.1 hcommand
    rw [readFile_eq_ok] at hfile
    rw [Except.mapError_eq_ok] at hsegment
    have hclass := Invocation.classNames_settings o s path identifier asClass
    cases hname : segment.typeName ((o.apply s).classNames || asClass) identifier with
    | none =>
      rw [hname] at hshown
      cases hshown
    | some name =>
      rw [hname] at hshown
      cases hshown
      exact .resolve hfile hsegment (hclass ▸ hname)

/-- **A run shows all or nothing.** One that does not end with code 0 has printed nothing; one that
does has printed what the command has to show, under the settings that are loaded and the options
over them. A query fails as the first of its stages that fails. -/
theorem run_shows_whole {arguments : List String} (h : parse arguments = .ok i) :
    ((run w arguments).code? ≠ some 0 → (run w arguments).output = "") ∧
    ((run w arguments).code? = some 0 ↔ (run w arguments).failure = none) ∧
    ((run w arguments).code? = some 0 → ∃ s, Settings.load w i.options.config = .ok s ∧
      Shows w (i.settings s) i.command (run w arguments).output) ∧
    (∀ path, i.command = .query path →
      (run w arguments).failure = Stage.all.findSome? (Stage.failure? w i.options path)) := by
  rw [run_of_parse h]
  cases hshown : i.shown w with
  | error failure =>
    refine ⟨fun _ => rfl, iff_of_false failure.code?_ne_zero nofun,
      fun hcode => absurd hcode failure.code?_ne_zero, fun path hquery => ?_⟩
    rw [← error?_query hquery, hshown]
    rfl
  | ok text =>
    refine ⟨fun hcode => absurd rfl hcode, iff_of_true rfl rfl, fun _ => shows_of_shown hshown,
      fun path hquery => ?_⟩
    rw [← error?_query hquery, hshown]
    rfl

/-- A workspace with a request and a segment, and no other file. -/
def sampleWorkspace : Workspace := .ofFiles [
  ("r", "\x7b\"filter_field_list\":[\"a\"]\x7d"),
  ("g", "\x7b\"kind\":\"entity_set\",\"name\":\"items\",\"type\":"
    ++ "\x7b\"kind\":\"scalar\",\"full_name\":\"sales.order_line\"\x7d\x7d")] []

/-- A query shows the section of its request, and a segment its class name where the command asks for
that. Where the table and the request are both missing, it is the table that is named, and nothing
is printed. -/
theorem run_shows_whole_of_sample :
    (run sampleWorkspace ["query", "r"]).failure = none ∧
    Shows sampleWorkspace {} (.query "r") (run sampleWorkspace ["query", "r"]).output ∧
    Shows sampleWorkspace { classNames := true } (.resolve "g" "items" true)
      (run sampleWorkspace ["resolve", "g", "items", "--class-name"]).output ∧
    (run sampleWorkspace ["resolve", "g", "items", "--class-name"]).output = "OrderLine\n" ∧
    (run sampleWorkspace ["resolve", "g", "other"]).output = "" ∧
    (run sampleWorkspace ["-e", "t", "query", "s"]).output = "" ∧
    (run sampleWorkspace ["-e", "t", "query", "s"]).failure =
      some (.error (.expressionsFileMissing "t")) := by
  have hload : Settings.load sampleWorkspace none = .ok {} :=
    Except.toOption_eq_some_iff.1 (by decide +kernel)
  have hquery : parse ["query", "r"] = .ok ⟨{}, .query "r"⟩ :=
    Except.toOption_eq_some_iff.1 (by decide +kernel)
  have hresolve : parse ["resolve", "g", "items", "--class-name"] =
      .ok ⟨{}, .resolve "g" "items" true⟩ := Except.toOption_eq_some_iff.1 (by decide +kernel)
  have hother : parse ["resolve", "g", "other"] = .ok ⟨{}, .resolve "g" "other" false⟩ :=
    Except.toOption_eq_some_iff.1 (by decide +kernel)
  have hmissing : parse ["-e", "t", "query", "s"] =
      .ok ⟨{ expressions := some "t" }, .query "s"⟩ :=
    Except.toOption_eq_some_iff.1 (by decide +kernel)
  have hcheck : ({ expressionsFile := some "t" } : Settings).validate sampleWorkspace =
      .error (.expressionsFileMissing "t") := by
    have hentry : (sampleWorkspace.entry "t").isPresent = false := by decide +kernel
    simp only [Settings.validate, hentry, Bool.false_eq_true, if_false]
  have hcode : (run sampleWorkspace ["query", "r"]).code? = some 0 := by decide +kernel
  obtain ⟨-, hfailure, hshows, -⟩ := run_shows_whole (w := sampleWorkspace) hquery
  obtain ⟨-, -, hshows', -⟩ := run_shows_whole (w := sampleWorkspace) hresolve
  obtain ⟨hsilent, -, -, -⟩ := run_shows_whole (w := sampleWorkspace) hother
  obtain ⟨hempty, -, -, hstages⟩ := run_shows_whole (w := sampleWorkspace) hmissing
  obtain ⟨s, hs, hshown⟩ := hshows hcode
  obtain rfl : {} = s := Except.ok.inj (hload.symm.trans hs)
  obtain ⟨s, hs, hshown'⟩ := hshows' (by decide +kernel)
  obtain rfl : {} = s := Except.ok.inj (hload.symm.trans hs)
  refine ⟨hfailure.1 hcode, hshown, hshown', by decide +kernel, hsilent (by decide +kernel),
    hempty (by decide +kernel), ?_⟩
  rw [hstages "s" rfl, List.findSome?_eq_some_iff]
  refine ⟨[.load], .check, [.request, .table, .headers], rfl, ?_, ?_⟩
  · simp only [Stage.failure?, Stage.failure?.settings?, hload]
    exact congrArg (fun check => (error? check).map Failure.error) hcheck
  · simp [Stage.failure?, hload, error?]

end QuerySnippet.CommandLine
