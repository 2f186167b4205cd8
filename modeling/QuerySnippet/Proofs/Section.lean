/-
What a query section is made of.

The headers come first: every entry in its order but those of the host, by its
name and its first value. Behind them stand the query options that the request
has, each by the template and the delimiter of its own. `querySection_outcome`:
a section is just that, and it fails only for want of a header value, naming
the first entry that lacks one.
-/
import Mathlib.Data.Fin.VecNotation
import QuerySnippet.Expressions.Language
import QuerySnippet.Proofs.Clause
import QuerySnippet.Proofs.Outcome
import QuerySnippet.Section

namespace QuerySnippet

namespace Template

theorem render₁_eq (t : Template 1) (value : String) : t.render₁ value = t.render ![value] := by
  have hargs : (fun _ => value) = ![value] := by
    funext i
    rw [Fin.fin_one_eq_zero i]
    rfl
  rw [render₁, hargs]

theorem render₂_eq (t : Template 2) (first second : String) :
    t.render₂ first second = t.render ![first, second] := by
  have hargs : (fun i : Fin 2 => if i = 0 then first else second) = ![first, second] := by
    funext i
    rcases Fin.exists_fin_two.1 ⟨i, rfl⟩ with rfl | rfl <;> rfl
  rw [render₂, hargs]

end Template

namespace Section

/-! ## What a section shows -/

/-- The name is `host` up to ASCII case. -/
def NamesHost (name : String) : Prop := Text.foldCase name = ['h', 'o', 's', 't']

instance (name : String) : Decidable (NamesHost name) := inferInstanceAs (Decidable (_ = _))

/-- Every entry has a value to show, but those of the host. -/
def HasValues (entries : List (String × List String)) : Prop :=
  ∀ entry ∈ entries, ¬ NamesHost entry.1 → entry.2 ≠ []

/-- The names with their first values, in order, but those of the host. -/
def shownHeaders (entries : List (String × List String)) : List (String × String) :=
  (entries.filter fun entry => ¬ NamesHost entry.1).filterMap fun (name, values) =>
    values.head?.map fun value => (name, value)

/-- A clause list shows its clauses, joined, when it is not empty. -/
def shownClauses (t : Template 1) (delimiter : String) (items : List String) :
    List (Template 1 × String) :=
  if items = [] then [] else [(t, delimiter.intercalate items)]

/-- A text shows itself when it is there and not empty. -/
def shownText (t : Template 1) (text : Option String) : List (Template 1 × String) :=
  match text with
  | some s => if s = "" then [] else [(t, s)]
  | none => []

/-- A number shows its decimal text when it is there. -/
def shownNumber (t : Template 1) (number : Option UInt64) : List (Template 1 × String) :=
  match number with
  | some n => [(t, toString n.toNat)]
  | none => []

/-- The query options of a request, in order: a template and the text for its place. -/
def shownOptions (e : Expressions) (r : Request) : List (Template 1 × String) :=
  shownClauses e.filter e.filterDelimiter r.filter ++
  shownText e.search r.searchExpression ++
  shownClauses e.expand e.expandDelimiter r.expand ++
  shownClauses e.select e.selectDelimiter r.select ++
  shownClauses e.orderBy e.orderByDelimiter r.orderBy ++
  shownNumber e.skip r.paging.skip ++
  shownText e.skipToken r.paging.skipToken ++
  shownNumber e.top r.paging.top

/-- The text of a section. -/
def shown (e : Expressions) (r : Request) : String :=
  String.join ((shownHeaders r.headers.entries).map fun (name, value) =>
    e.header.render ![name, value]) ++
  String.join ((shownOptions e r).map fun (t, text) => t.render ![text])

/-! ## Headers -/

theorem isHost_iff {name : String} : Headers.isHost name = true ↔ NamesHost name :=
  Text.eqIgnoreCase_iff

theorem header_of_host (t : Template 2) {name : String} {values : List String}
    (h : NamesHost name) : header t (name, values) = .ok "" := by
  simp [header, isHost_iff.2 h]

theorem header_of_value (t : Template 2) {name value : String} {values : List String}
    (h : ¬ NamesHost name) : header t (name, value :: values) = .ok (t.render ![name, value]) := by
  simp [header, mt isHost_iff.1 h, Template.render₂_eq]

theorem header_of_none (t : Template 2) {name : String} (h : ¬ NamesHost name) :
    header t (name, []) = .error (.missingHeaderValue name) := by
  simp [header, mt isHost_iff.1 h]

theorem hasValues_nil : HasValues [] := fun _ hmem => absurd hmem List.not_mem_nil

theorem hasValues_cons {entry : String × List String} {entries : List (String × List String)} :
    HasValues (entry :: entries) ↔ (¬ NamesHost entry.1 → entry.2 ≠ []) ∧ HasValues entries :=
  List.forall_mem_cons

theorem hasValues_append {before after : List (String × List String)} :
    HasValues (before ++ after) ↔ HasValues before ∧ HasValues after :=
  List.forall_mem_append

theorem shownHeaders_append (before after : List (String × List String)) :
    shownHeaders (before ++ after) = shownHeaders before ++ shownHeaders after := by
  simp [shownHeaders]

theorem shownHeaders_cons_of_host {name : String} (h : NamesHost name) (values : List String)
    (entries : List (String × List String)) :
    shownHeaders ((name, values) :: entries) = shownHeaders entries := by
  simp [shownHeaders, h]

theorem shownHeaders_cons_of_value {name : String} (h : ¬ NamesHost name) (value : String)
    (values : List String) (entries : List (String × List String)) :
    shownHeaders ((name, value :: values) :: entries) = (name, value) :: shownHeaders entries := by
  simp [shownHeaders, h]

theorem mapM_header_of_hasValues (t : Template 2) : ∀ {entries : List (String × List String)},
    HasValues entries → ∃ fragments, entries.mapM (header t) = .ok fragments ∧
      String.join fragments =
        String.join ((shownHeaders entries).map fun (name, value) => t.render ![name, value])
  | [], _ => ⟨[], rfl, rfl⟩
  | (name, values) :: entries, h => by
    obtain ⟨hfirst, hrest⟩ := hasValues_cons.1 h
    obtain ⟨fragments, hok, hjoin⟩ := mapM_header_of_hasValues t hrest
    rw [List.mapM_cons]
    by_cases hhost : NamesHost name
    · refine ⟨"" :: fragments, ?_, ?_⟩
      · rw [header_of_host t hhost, hok]
        rfl
      · simp [shownHeaders, hhost, hjoin]
    · obtain ⟨value, values, rfl⟩ := List.exists_cons_of_ne_nil (hfirst hhost)
      refine ⟨t.render ![name, value] :: fragments, ?_, ?_⟩
      · rw [header_of_value t hhost, hok]
        rfl
      · simp [shownHeaders, hhost, hjoin]

theorem mapM_header_of_missing (t : Template 2) {before after : List (String × List String)}
    {name : String} (hb : HasValues before) (hn : ¬ NamesHost name) :
    (before ++ (name, []) :: after).mapM (header t) = .error (.missingHeaderValue name) := by
  obtain ⟨fragments, hok, -⟩ := mapM_header_of_hasValues t hb
  rw [List.mapM_append, hok, List.mapM_cons, header_of_none t hn]
  rfl

/-- Entries that do not all have values have a first one that lacks them. -/
theorem exists_missing_of_not_hasValues : ∀ {entries : List (String × List String)},
    ¬ HasValues entries → ∃ before name after, entries = before ++ (name, []) :: after ∧
      HasValues before ∧ ¬ NamesHost name
  | [], h => absurd hasValues_nil h
  | (name, values) :: entries, h => by
    by_cases hmissing : ¬ NamesHost name ∧ values = []
    · obtain ⟨hn, rfl⟩ := hmissing
      exact ⟨[], name, entries, rfl, hasValues_nil, hn⟩
    · have hfirst : ¬ NamesHost name → values ≠ [] := fun hn he => hmissing ⟨hn, he⟩
      have hrest : ¬ HasValues entries := fun hr => h (hasValues_cons.2 ⟨hfirst, hr⟩)
      obtain ⟨before, name', after, rfl, hb, hn⟩ := exists_missing_of_not_hasValues hrest
      exact ⟨(name, values) :: before, name', after, rfl, hasValues_cons.2 ⟨hfirst, hb⟩, hn⟩

/-! ## Query options -/

theorem clauses_eq (t : Template 1) (delimiter : String) (items : List String) :
    clauses t delimiter items =
      String.join ((shownClauses t delimiter items).map fun (t, text) => t.render ![text]) := by
  cases items with
  | nil => rfl
  | cons item items =>
    simp [clauses, shownClauses, joinClauses_eq_intercalate, Template.render₁_eq]

theorem value_filter_eq (t : Template 1) (text : Option String) :
    value t (text.filter (· ≠ "")) =
      String.join ((shownText t text).map fun (t, text) => t.render ![text]) := by
  cases text with
  | none => rfl
  | some s =>
    by_cases hs : s = ""
    · simp [hs, value, shownText, Option.filter]
    · simp [hs, value, shownText, Option.filter, Template.render₁_eq]

theorem value_map_decimal_eq (t : Template 1) (number : Option UInt64) :
    value t (number.map decimal) =
      String.join ((shownNumber t number).map fun (t, text) => t.render ![text]) := by
  cases number with
  | none => rfl
  | some n => simp [value, shownNumber, decimal, Template.render₁_eq]

theorem join_options (e : Expressions) (r : Request) :
    String.join (options e r) =
      String.join ((shownOptions e r).map fun (t, text) => t.render ![text]) := by
  simp only [options, shownOptions, clauses_eq, Request.search, Request.skipToken, value_filter_eq,
    value_map_decimal_eq, List.map_append, String.join_append, String.join_cons, String.join_nil,
    String.append_assoc, String.append_empty]

end Section

open Section

theorem querySection_of_hasValues (e : Expressions) {r : Request}
    (h : HasValues r.headers.entries) : querySection e r = .ok (shown e r) := by
  obtain ⟨fragments, hok, hjoin⟩ := mapM_header_of_hasValues e.header h
  rw [querySection, hok]
  change Except.ok (String.join (fragments ++ options e r)) = _
  rw [String.join_append, hjoin, join_options, shown]

theorem querySection_of_missing (e : Expressions) {r : Request}
    {before after : List (String × List String)} {name : String}
    (he : r.headers.entries = before ++ (name, []) :: after) (hb : HasValues before)
    (hn : ¬ NamesHost name) : querySection e r = .error (.missingHeaderValue name) := by
  rw [querySection, he, mapM_header_of_missing e.header hb hn]
  rfl

/-- A section fails for nothing but the first header without values. -/
theorem exists_missing_of_querySection_eq_error {e : Expressions} {r : Request} {error : Error}
    (h : querySection e r = .error error) : ∃ before name after,
      r.headers.entries = before ++ (name, []) :: after ∧ HasValues before ∧ ¬ NamesHost name ∧
        error = .missingHeaderValue name := by
  by_cases hvalues : HasValues r.headers.entries
  · rw [querySection_of_hasValues e hvalues] at h
    cases h
  · obtain ⟨before, name, after, hentries, hb, hn⟩ := exists_missing_of_not_hasValues hvalues
    rw [querySection_of_missing e hentries hb hn] at h
    exact ⟨before, name, after, hentries, hb, hn, (Except.error.inj h).symm⟩

theorem querySection_eq_ok_iff {e : Expressions} {r : Request} {text : String} :
    querySection e r = .ok text ↔ HasValues r.headers.entries ∧ shown e r = text := by
  constructor
  · intro h
    by_cases hvalues : HasValues r.headers.entries
    · rw [querySection_of_hasValues e hvalues] at h
      exact ⟨hvalues, Except.ok.inj h⟩
    · obtain ⟨before, name, after, hentries, hb, hn⟩ := exists_missing_of_not_hasValues hvalues
      rw [querySection_of_missing e hentries hb hn] at h
      cases h
  · rintro ⟨hvalues, rfl⟩
    exact querySection_of_hasValues e hvalues

/-- **The query section of a request**, whatever the table: all that it shows, or the first header
that has no value to show. -/
theorem querySection_outcome (e : Expressions) (r : Request) :
    (HasValues r.headers.entries → querySection e r = .ok (shown e r)) ∧
    (¬ HasValues r.headers.entries → ∃ before name after,
      r.headers.entries = before ++ (name, []) :: after ∧ HasValues before ∧ ¬ NamesHost name ∧
        querySection e r = .error (.missingHeaderValue name)) := by
  refine ⟨querySection_of_hasValues e, fun h => ?_⟩
  obtain ⟨before, name, after, he, hb, hn⟩ := exists_missing_of_not_hasValues h
  exact ⟨before, name, after, he, hb, hn, querySection_of_missing e he hb hn⟩

/-- A host without values is passed over; any other header without values is named. -/
theorem querySection_outcome_of_host :
    querySection Language.csharp.expressions
        { headers := ⟨[("HOST", []), ("A", ["1", "2"]), ("A", ["3"])]⟩
          filter := [""]
          paging := { skip := some 0, skipToken := some "" } } =
      .ok "\n\t.Header(\"A\",\"1\")\n\t.Header(\"A\",\"3\")\n\t.Filter(\"\")\n\t.Skip(0)" ∧
    querySection Language.csharp.expressions { headers := ⟨[("host", []), ("B", [])]⟩ } =
      .error (.missingHeaderValue "B") := by
  constructor
  · rw [(querySection_outcome _ _).1 (by simp [HasValues]; decide)]
    exact congrArg Except.ok (by decide +kernel)
  · obtain ⟨before, name, after, he, -, hn, h⟩ := (querySection_outcome
      Language.csharp.expressions { headers := ⟨[("host", []), ("B", [])]⟩ }).2
        (by simp [HasValues]; decide)
    rcases before with _ | ⟨_, _ | ⟨_, before⟩⟩ <;> simp at he
    · obtain ⟨rfl, -⟩ := he
      exact absurd (by decide) hn
    · obtain ⟨-, rfl, -⟩ := he
      exact h

end QuerySnippet
