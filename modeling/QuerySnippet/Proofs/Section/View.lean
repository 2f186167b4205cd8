/-
What a query section depends on.

Of the headers a section reads the name and the first value of every entry but
those of the host (`visible`); of the search and the skip token, whether there
is any text. Two requests that agree on these, on the clause lists and on the
numbers have the same section, or fail for the same header. Header lists look
the same exactly when entries of the host can be put in and taken out, and
values behind the first be changed, until one is the other
(`visible_eq_iff_edits`), so none of this can show.
-/
import Mathlib.Logic.Relation
import QuerySnippet.Proofs.Section

namespace QuerySnippet

namespace Section

/-! ## Views -/

/-- The names with their first values, if they have any, in order, but those of the host. -/
def visible (entries : List (String × List String)) : List (String × Option String) :=
  (entries.filter fun entry => ¬ NamesHost entry.1).map fun (name, values) => (name, values.head?)

/-- A text. An empty one is none. -/
def written? : Option String → Option String
  | some "" => none
  | text => text

/-- The requests agree on all that a section may depend on. -/
structure Agree (r r' : Request) : Prop where
  headers : visible r.headers.entries = visible r'.headers.entries
  filter : r.filter = r'.filter
  expand : r.expand = r'.expand
  select : r.select = r'.select
  orderBy : r.orderBy = r'.orderBy
  search : written? r.searchExpression = written? r'.searchExpression
  skip : r.paging.skip = r'.paging.skip
  skipToken : written? r.paging.skipToken = written? r'.paging.skipToken
  top : r.paging.top = r'.paging.top

/-- The fragment of a header that is seen. -/
def fragment (t : Template 2) : String × Option String → Except Error String
  | (name, some value) => .ok (t.render₂ name value)
  | (name, none) => .error (.missingHeaderValue name)

theorem visible_cons_of_host {name : String} (h : NamesHost name) (values : List String)
    (entries : List (String × List String)) :
    visible ((name, values) :: entries) = visible entries := by
  simp [visible, h]

theorem visible_cons_of_not_host {name : String} (h : ¬ NamesHost name) (values : List String)
    (entries : List (String × List String)) :
    visible ((name, values) :: entries) = (name, values.head?) :: visible entries := by
  simp [visible, h]

theorem visible_append (before after : List (String × List String)) :
    visible (before ++ after) = visible before ++ visible after := by
  simp [visible]

theorem header_eq_fragment (t : Template 2) {name : String} (h : ¬ NamesHost name)
    (values : List String) : header t (name, values) = fragment t (name, values.head?) := by
  cases values with
  | nil => exact header_of_none t h
  | cons value values => rw [header_of_value t h, ← Template.render₂_eq]; rfl

theorem join_mapM_cons {α : Type} (f : α → Except Error String) (a : α) (as : List α) :
    String.join <$> (a :: as).mapM f =
      (do let first ← f a; let rest ← String.join <$> as.mapM f; pure (first ++ rest)) := by
  rw [List.mapM_cons]
  cases f a with
  | error e => rfl
  | ok first =>
    cases as.mapM f with
    | error e => rfl
    | ok rest => exact congrArg Except.ok (String.join_cons ..)

/-- The headers of a section are those of its view, or fail as those do. -/
theorem join_mapM_header (t : Template 2) (entries : List (String × List String)) :
    String.join <$> entries.mapM (header t) =
      String.join <$> (visible entries).mapM (fragment t) := by
  induction entries with
  | nil => rfl
  | cons entry entries ih =>
    obtain ⟨name, values⟩ := entry
    rw [join_mapM_cons]
    by_cases hhost : NamesHost name
    · rw [visible_cons_of_host hhost, header_of_host t hhost, ih]
      cases (visible entries).mapM (fragment t) with
      | error e => rfl
      | ok rest => exact congrArg Except.ok (String.empty_append ..)
    · rw [visible_cons_of_not_host hhost, join_mapM_cons, header_eq_fragment t hhost, ih]

theorem filter_ne_empty_eq (text : Option String) : text.filter (· ≠ "") = written? text := by
  unfold written?
  split
  · rfl
  · next h =>
    cases text with
    | none => rfl
    | some s =>
      have hs : s ≠ "" := fun he => h (congrArg some he)
      simp [Option.filter, hs]

theorem Agree.options_eq {r r' : Request} (h : Agree r r') (e : Expressions) :
    options e r = options e r' := by
  simp only [options, Request.search, Request.skipToken, filter_ne_empty_eq, h.filter, h.expand,
    h.select, h.orderBy, h.search, h.skip, h.skipToken, h.top]

theorem querySection_eq (e : Expressions) (r : Request) :
    querySection e r = (· ++ String.join (options e r)) <$>
      (String.join <$> r.headers.entries.mapM (header e.header)) := by
  rw [querySection]
  cases r.headers.entries.mapM (header e.header) with
  | error e => rfl
  | ok fragments => exact congrArg Except.ok (String.join_append ..)

theorem Agree.querySection_eq {r r' : Request} (h : Agree r r') (e : Expressions) :
    querySection e r = querySection e r' := by
  rw [Section.querySection_eq, Section.querySection_eq, join_mapM_header, join_mapM_header,
    h.headers, h.options_eq]

/-! ## Edits -/

/-- One change to a header list that cannot be seen. An entry of the host that moves or changes is
taken out and put in again. -/
inductive Edit : List (String × List String) → List (String × List String) → Prop
  /-- An entry of the host is put in. -/
  | insert (before after : List (String × List String)) {name : String} (values : List String) :
    NamesHost name → Edit (before ++ after) (before ++ (name, values) :: after)
  /-- An entry of the host is taken out. -/
  | delete (before after : List (String × List String)) {name : String} (values : List String) :
    NamesHost name → Edit (before ++ (name, values) :: after) (before ++ after)
  /-- The values behind the first of an entry are changed. -/
  | later (before after : List (String × List String)) (name first : String)
      (values values' : List String) :
    Edit (before ++ (name, first :: values) :: after) (before ++ (name, first :: values') :: after)

namespace Edit

variable {entries entries' : List (String × List String)}

theorem symm (h : Edit entries entries') : Edit entries' entries := by
  cases h with
  | insert before after values hhost => exact .delete before after values hhost
  | delete before after values hhost => exact .insert before after values hhost
  | later before after name first values values' =>
    exact .later before after name first values' values

theorem cons (entry : String × List String) (h : Edit entries entries') :
    Edit (entry :: entries) (entry :: entries') := by
  cases h with
  | insert before after values hhost => exact .insert (entry :: before) after values hhost
  | delete before after values hhost => exact .delete (entry :: before) after values hhost
  | later before after name first values values' =>
    exact .later (entry :: before) after name first values values'

/-- One edit leaves the view as it is. -/
theorem visible_eq (h : Edit entries entries') : visible entries = visible entries' := by
  have hinsert : ∀ (before after : List (String × List String)) {name : String}
      (values : List String), NamesHost name →
        visible (before ++ (name, values) :: after) = visible (before ++ after) := by
    intro before after name values hhost
    rw [visible_append, visible_cons_of_host hhost, visible_append]
  cases h with
  | insert before after values hhost => exact (hinsert before after values hhost).symm
  | delete before after values hhost => exact hinsert before after values hhost
  | later before after name first values values' =>
    rw [visible_append, visible_append]
    by_cases hhost : NamesHost name
    · rw [visible_cons_of_host hhost, visible_cons_of_host hhost]
    · rw [visible_cons_of_not_host hhost, visible_cons_of_not_host hhost]
      rfl

end Edit

instance : Std.Symm Edit := ⟨fun _ _ => Edit.symm⟩

/-- A run of edits. -/
abbrev Edits := Relation.ReflTransGen Edit

/-- A run of edits leaves the view as it is. -/
theorem Edits.visible_eq {entries entries' : List (String × List String)}
    (h : Edits entries entries') : visible entries = visible entries' := by
  induction h with
  | refl => rfl
  | tail _ hstep ih => exact ih.trans hstep.visible_eq

theorem Edits.cons (entry : String × List String) {entries entries' : List (String × List String)}
    (h : Edits entries entries') : Edits (entry :: entries) (entry :: entries') :=
  Relation.ReflTransGen.lift (entry :: ·) (fun _ _ => Edit.cons entry) _ _ h

/-- The header list that has nothing but what is seen. -/
def bare (view : List (String × Option String)) : List (String × List String) :=
  view.map fun (name, value) => (name, value.toList)

theorem edits_bare : ∀ entries : List (String × List String), Edits entries (bare (visible entries))
  | [] => .refl
  | (name, values) :: entries => by
    have hrest : Edits entries (bare (visible entries)) := edits_bare entries
    by_cases hhost : NamesHost name
    · rw [visible_cons_of_host hhost]
      exact .head (.delete [] entries values hhost) hrest
    · rw [visible_cons_of_not_host hhost]
      cases values with
      | nil => exact hrest.cons (name, [])
      | cons first values =>
        exact .head (.later [] entries name first values []) (hrest.cons (name, [first]))

/-- Header lists look the same when edits lead from one to the other, and only then. -/
theorem visible_eq_iff_edits {entries entries' : List (String × List String)} :
    visible entries = visible entries' ↔ Edits entries entries' := by
  constructor
  · intro h
    have hback : Edits (bare (visible entries')) entries' :=
      Std.Symm.symm _ _ (edits_bare entries')
    exact (edits_bare entries).trans (h ▸ hback)
  · exact Edits.visible_eq

end Section

open Section

/-- **A section depends on nothing but what is seen**: requests that agree on that have the same
section or fail alike, and edits to the headers that cannot be seen change neither. -/
theorem querySection_eq_of_agree (e : Expressions) (r : Request) :
    (∀ r', Agree r r' → querySection e r' = querySection e r) ∧
    ∀ entries, Edits r.headers.entries entries →
      querySection e { r with headers := ⟨entries⟩ } = querySection e r := by
  refine ⟨fun r' h => (h.querySection_eq e).symm, fun entries h => ?_⟩
  have hagree : Agree r { r with headers := ⟨entries⟩ } :=
    ⟨visible_eq_iff_edits.2 h, rfl, rfl, rfl, rfl, rfl, rfl, rfl, rfl⟩
  exact (hagree.querySection_eq e).symm

/-- Entries of the host around one that has no value do not change which one is named. -/
theorem querySection_eq_of_agree_missing :
    let r : Request := { headers := ⟨[("HOST", []), ("A", ["1", "2"]), ("B", [])]⟩ }
    let r' : Request :=
      { headers := ⟨[("A", ["1"]), ("hOsT", ["x"]), ("B", []), ("Host", [])]⟩
        searchExpression := some "" }
    querySection Language.java.expressions r' = querySection Language.java.expressions r ∧
    querySection Language.java.expressions
        { r with headers := ⟨[("A", ["1", "2"]), ("B", [])]⟩ } =
      querySection Language.java.expressions r ∧
    querySection Language.java.expressions r = .error (.missingHeaderValue "B") := by
  intro r r'
  have hagree : Agree r r' := ⟨by decide, rfl, rfl, rfl, rfl, rfl, rfl, rfl, rfl⟩
  have hedits : Edits r.headers.entries [("A", ["1", "2"]), ("B", [])] :=
    .single (.delete [] _ [] (by decide))
  obtain ⟨hsame, hedited⟩ := querySection_eq_of_agree Language.java.expressions r
  exact ⟨hsame r' hagree, hedited _ hedits, rfl⟩

end QuerySnippet
