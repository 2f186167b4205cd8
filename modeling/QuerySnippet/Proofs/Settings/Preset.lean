/-
Settings that go by a language.

A text names a language when one of the names of the language stands in it up to
ASCII case, with nothing but white space around it (`Language.Named`). Reading a
language goes through the white space and the lower case of all of Unicode, and
lets no other text in (`Language.parse_eq_ok_iff`). The check of the settings and
the loading of their table both read the language, so they agree, and settings
that pass the check leave a query nothing to fail for but a header without values.
-/
import QuerySnippet.Proofs.Section
import QuerySnippet.Proofs.Text.Fold
import QuerySnippet.Settings.Basic

namespace QuerySnippet

namespace Language

/-- The names of a language, in lower case. -/
def names : Language → List String
  | csharp => ["csharp", "c#", "cs"]
  | javascript => ["javascript", "js"]
  | java => ["java"]

/-- The text is a name of the language up to ASCII case, with white space around it. -/
def Named (text : String) (l : Language) : Prop :=
  ∃ before name after, text = before ++ name ++ after ∧ Text.Blank before ∧ Text.Blank after ∧
    ∃ known ∈ l.names, Text.eqIgnoreCase name known

theorem ofName?_eq_some_iff {name : String} {l : Language} :
    ofName? name = some l ↔ name ∈ l.names := by
  constructor
  · intro h
    unfold ofName? at h
    split_ifs at h with hcsharp hjavascript hjava
    · cases h; exact hcsharp
    · cases h; exact hjavascript
    · cases h; exact List.mem_singleton.2 hjava
  · have hall : ∀ name ∈ l.names, ofName? name = some l := by cases l <;> decide
    exact hall name

/-- Names are plain words in lower case. -/
theorem plain_of_mem_names {l : Language} {known : String} (h : known ∈ l.names) :
    (∀ d ∈ known.toList, d.toNat < 128 ∧ d ≠ 'k' ∧ Text.isBlank d = false) ∧
      Text.foldCase known = known.toList := by
  have hall : ∀ known ∈ l.names,
      (known.toList.all fun d => d.toNat < 128 && d != 'k' && !Text.isBlank d) = true ∧
        Text.foldCase known = known.toList := by cases l <;> decide +kernel
  obtain ⟨hplain, hfold⟩ := hall known h
  refine ⟨fun d hd => ?_, hfold⟩
  simpa [and_assoc] using List.all_eq_true.1 hplain d hd

/-- Just the texts that name a language are read as one. -/
theorem parse_eq_ok_iff {text : String} {l : Language} : parse text = .ok l ↔ Named text l := by
  have hparse : parse text = .ok l ↔ ofName? (Text.lowercased (Text.trimmed text)) = some l := by
    unfold parse
    split
    · next l' h => rw [h, Except.ok.injEq, Option.some.injEq]
    · next h => rw [h]; exact ⟨nofun, nofun⟩
  rw [hparse, ofName?_eq_some_iff]
  constructor
  · intro hknown
    obtain ⟨hplain, hlower⟩ := plain_of_mem_names hknown
    obtain ⟨before, name, after, htext, hb, ha, hname⟩ :=
      (Text.lowercased_trimmed_eq_iff hplain).1 rfl
    exact ⟨before, name, after, htext, hb, ha, _, hknown,
      Text.eqIgnoreCase_iff.2 (hname.trans hlower.symm)⟩
  · rintro ⟨before, name, after, htext, hb, ha, known, hknown, hname⟩
    obtain ⟨hplain, hlower⟩ := plain_of_mem_names hknown
    have hfold : Text.foldCase name = known.toList :=
      (Text.eqIgnoreCase_iff.1 hname).trans hlower
    rwa [(Text.lowercased_trimmed_eq_iff hplain).2 ⟨before, name, after, htext, hb, ha, hfold⟩]

/-- White space alone is not the name of a language. -/
theorem not_blank_of_named {text : String} {l : Language} (h : Named text l) :
    ¬ Text.Blank text := by
  intro hb
  have hok : parse text = .ok l := parse_eq_ok_iff.2 h
  rw [parse, Text.trimmed_eq_empty_iff.2 hb] at hok
  cases hok

/-- A text that names no language is reported as it is. -/
theorem parse_of_not_named {text : String} (h : ¬ ∃ l, Named text l) :
    parse text = .error (.unknownLanguage text) := by
  unfold parse
  split
  · next l hl =>
    exact absurd ⟨l, parse_eq_ok_iff.1 (by rw [parse, hl])⟩ h
  · rfl

end Language

namespace Settings

open QuerySnippet.Language (Named)

variable {s : Settings} {w : Workspace}

/-- Without a file of expressions the table is that of the language. -/
theorem expressions_eq_ok_iff (h : s.expressionsFile = none) {table : Expressions} :
    s.expressions w = .ok table ↔ ∃ l, Named s.language l ∧ table = l.expressions := by
  rw [expressions, h]
  constructor
  · intro hok
    obtain ⟨l, hl, htable⟩ := Except.bind_eq_ok.1 hok
    rw [Language.read_texts] at htable
    exact ⟨l, Language.parse_eq_ok_iff.1 hl, (Except.ok.inj htable).symm⟩
  · rintro ⟨l, hl, rfl⟩
    exact Except.bind_eq_ok.2 ⟨l, Language.parse_eq_ok_iff.2 hl, l.read_texts⟩

theorem expressions_of_not_named (h : s.expressionsFile = none) (hn : ¬ ∃ l, Named s.language l) :
    s.expressions w = .error (.unknownLanguage s.language) := by
  rw [expressions, h]
  change (preset s >>= fun l => l.texts.read) = _
  rw [preset, Language.parse_of_not_named hn]
  rfl

theorem validate_of_blank (h : s.expressionsFile = none) (hb : Text.Blank s.language) :
    s.validate w = .error .languageRequired := by
  rw [validate, h]
  exact if_pos (Text.trimmed_eq_empty_iff.2 hb)

theorem validate_of_not_blank (h : s.expressionsFile = none) (hb : ¬ Text.Blank s.language) :
    s.validate w = (fun _ => ()) <$> Language.parse s.language := by
  rw [validate, h]
  refine (if_neg (mt Text.trimmed_eq_empty_iff.1 hb)).trans ?_
  exact (map_eq_pure_bind ..).symm

theorem validate_eq_ok_iff (h : s.expressionsFile = none) :
    s.validate w = .ok () ↔ ∃ l, Named s.language l := by
  by_cases hb : Text.Blank s.language
  · rw [validate_of_blank h hb]
    exact ⟨nofun, fun ⟨l, hl⟩ => absurd hb (Language.not_blank_of_named hl)⟩
  · rw [validate_of_not_blank h hb, Except.map_eq_ok]
    simp [Language.parse_eq_ok_iff]

/-- **The check of the settings agrees with the loading of their table**, when they go by a
language: both succeed for just the texts that name one. Then nothing but a header without values
keeps a query from its section. All other texts are reported as they are, but that the check has an
error of its own for white space. -/
theorem validate_agrees_with_expressions (h : s.expressionsFile = none) (w : Workspace) :
    (s.validate w = .ok () ↔ ∃ l, Named s.language l) ∧
    (∀ table, s.expressions w = .ok table ↔ ∃ l, Named s.language l ∧ table = l.expressions) ∧
    ((∃ l, Named s.language l) → ∀ r : Request,
      (Section.HasValues r.headers.entries → ∃ text, s.querySection w r = .ok text) ∧
      (∀ e, s.querySection w r = .error e → ∃ before name after,
        r.headers.entries = before ++ (name, []) :: after ∧ Section.HasValues before ∧
          ¬ Section.NamesHost name ∧ e = .missingHeaderValue name)) ∧
    ((¬ ∃ l, Named s.language l) →
      s.expressions w = .error (.unknownLanguage s.language) ∧
      (Text.Blank s.language → s.validate w = .error .languageRequired) ∧
      (¬ Text.Blank s.language → s.validate w = .error (.unknownLanguage s.language))) := by
  refine ⟨validate_eq_ok_iff h, fun table => expressions_eq_ok_iff h, ?named, ?unnamed⟩
  case named =>
    rintro ⟨l, hl⟩ r
    have hsection : s.querySection w r = QuerySnippet.querySection l.expressions r := by
      rw [Settings.querySection, (expressions_eq_ok_iff h).2 ⟨l, hl, rfl⟩]
      rfl
    rw [hsection]
    exact ⟨fun hvalues => ⟨_, querySection_of_hasValues _ hvalues⟩,
      fun e he => exists_missing_of_querySection_eq_error he⟩
  case unnamed =>
    intro hn
    refine ⟨expressions_of_not_named h hn, validate_of_blank h, fun hb => ?_⟩
    rw [validate_of_not_blank h hb, Language.parse_of_not_named hn]
    rfl

/-- White space of Unicode around an alias is no hindrance. Without an alias it has an error of its
own, and an unknown name keeps it. -/
theorem preset_between_spaces :
    let w : Workspace := .ofFiles [] []
    let spaced : Settings := { language := "\u2003C#\n" }
    let blank : Settings := { language := "\u2028 " }
    let unknown : Settings := { language := " cobol " }
    spaced.validate w = .ok () ∧ spaced.expressions w = .ok Language.csharp.expressions ∧
    (∃ text, spaced.querySection w { headers := ⟨[("host", [])]⟩ } = .ok text) ∧
    (∀ e, spaced.querySection w { headers := ⟨[("host", []), ("A", [])]⟩ } = .error e →
      e = .missingHeaderValue "A") ∧
    blank.validate w = .error .languageRequired ∧
    blank.expressions w = .error (.unknownLanguage "\u2028 ") ∧
    unknown.validate w = .error (.unknownLanguage " cobol ") := by
  intro w spaced blank unknown
  have hspaced : Named spaced.language .csharp :=
    ⟨"\u2003", "C#", "\n", by decide, by decide, by decide, "c#", by decide, by decide⟩
  have hunknown : ∀ text ∈ [blank.language, unknown.language], ¬ ∃ l, Named text l := by
    intro text htext
    have hnone : (Language.parse text).toOption = none := by
      revert text
      decide +kernel
    rintro ⟨l, hl⟩
    rw [Language.parse_eq_ok_iff.2 hl] at hnone
    cases hnone
  obtain ⟨hvalidate, hexpressions, hquery, -⟩ :=
    validate_agrees_with_expressions (s := spaced) rfl w
  obtain ⟨-, -, -, hblank⟩ := validate_agrees_with_expressions (s := blank) rfl w
  obtain ⟨-, -, -, hcobol⟩ := validate_agrees_with_expressions (s := unknown) rfl w
  obtain ⟨hload, hrequired, -⟩ := hblank (hunknown _ (by simp))
  obtain ⟨-, -, hreported⟩ := hcobol (hunknown _ (by simp))
  refine ⟨hvalidate.2 ⟨_, hspaced⟩, (hexpressions _).2 ⟨_, hspaced, rfl⟩,
    (hquery ⟨_, hspaced⟩ _).1 (by simp [Section.HasValues]; decide), fun e he => ?_,
    hrequired (by decide), hload, hreported (by decide)⟩
  obtain ⟨before, name, after, hentries, -, hn, rfl⟩ := (hquery ⟨_, hspaced⟩ _).2 e he
  rcases before with _ | ⟨_, _ | ⟨_, before⟩⟩ <;> simp at hentries
  · obtain ⟨rfl, -⟩ := hentries
    exact absurd (by decide) hn
  · obtain ⟨-, rfl, -⟩ := hentries
    rfl

end Settings

end QuerySnippet
