/-
What a section shows of a header that is put in.

A value of a name that has an entry goes behind the values there, where no section
looks. A value of a new name makes the last entry, so its fragment stands behind those
of all other headers, unless the name is that of the host. Collecting pairs one after
the other therefore shows the first pair of every name (`querySection_insert`).
-/
import QuerySnippet.Proofs.Request.Headers

namespace QuerySnippet

namespace Section

open Headers (names insertEntry)

/-- The fragments of headers. -/
def headersText (e : Expressions) (headers : List (String × String)) : String :=
  String.join (headers.map fun (name, value) => e.header.render ![name, value])

/-- The fragments behind the headers. -/
def optionsText (e : Expressions) (r : Request) : String :=
  String.join ((shownOptions e r).map fun (t, text) => t.render ![text])

/-- The first pair of every name but the host's, in order. -/
def firstPairs (pairs : List (String × String)) : List (String × String) :=
  ((pairs.map Prod.fst).eraseDups.filter fun name => ¬ NamesHost name).filterMap fun name =>
    (pairs.lookup name).map fun value => (name, value)

/-- A section with other headers has the same fragments behind them. -/
theorem querySection_of_entries (e : Expressions) (r : Request) {h : Headers}
    (hvalues : HasValues h.entries) : querySection e { r with headers := h } =
      .ok (headersText e (shownHeaders h.entries) ++ optionsText e r) :=
  querySection_of_hasValues e hvalues

/-! ## One insertion -/

variable {entries : List (String × List String)} {name : String}

theorem HasValues.insertEntry (h : HasValues entries) (name value : String) :
    HasValues (insertEntry name value entries) := by
  by_cases hmem : name ∈ names entries
  · obtain ⟨before, values, after, rfl, hbefore⟩ := Headers.exists_first_entry hmem
    rw [hasValues_append, hasValues_cons] at h
    rw [Headers.insertEntry_append_cons value values after hbefore, hasValues_append,
      hasValues_cons]
    exact ⟨h.1, fun _ => by simp, h.2.2⟩
  · rw [Headers.insertEntry_of_notMem value hmem, hasValues_append, hasValues_cons]
    exact ⟨h, fun _ => by simp, hasValues_nil⟩

/-- A value of a name that has an entry shows nothing. -/
theorem shownHeaders_insertEntry_of_mem (h : HasValues entries) (hmem : name ∈ names entries)
    (value : String) : shownHeaders (insertEntry name value entries) = shownHeaders entries := by
  obtain ⟨before, values, after, rfl, hbefore⟩ := Headers.exists_first_entry hmem
  rw [Headers.insertEntry_append_cons value values after hbefore, shownHeaders_append,
    shownHeaders_append]
  by_cases hhost : NamesHost name
  · rw [shownHeaders_cons_of_host hhost, shownHeaders_cons_of_host hhost]
  · -- An entry without values would show this one: there is none in headers that have a section.
    rw [hasValues_append, hasValues_cons] at h
    obtain ⟨first, values, rfl⟩ := List.exists_cons_of_ne_nil (h.2.1 hhost)
    rw [List.cons_append, shownHeaders_cons_of_value hhost, shownHeaders_cons_of_value hhost]

/-- A value of a new name shows itself behind all others, if the name is not the host's. -/
theorem shownHeaders_insertEntry_of_notMem (hmem : name ∉ names entries) (value : String) :
    shownHeaders (insertEntry name value entries) =
      shownHeaders entries ++ if NamesHost name then [] else [(name, value)] := by
  rw [Headers.insertEntry_of_notMem value hmem, shownHeaders_append]
  split_ifs with hhost
  · rw [shownHeaders_cons_of_host hhost]
    rfl
  · rw [shownHeaders_cons_of_value hhost]
    rfl

/-- The fragments of the headers after an insertion. -/
theorem headersText_insertEntry (e : Expressions) (h : HasValues entries) (name value : String) :
    headersText e (shownHeaders (insertEntry name value entries)) =
      if NamesHost name ∨ name ∈ names entries then headersText e (shownHeaders entries)
      else headersText e (shownHeaders entries) ++ e.header.render ![name, value] := by
  by_cases hmem : name ∈ names entries
  · rw [shownHeaders_insertEntry_of_mem h hmem, if_pos (.inr hmem)]
  · rw [shownHeaders_insertEntry_of_notMem hmem]
    by_cases hhost : NamesHost name
    · rw [if_pos hhost, List.append_nil, if_pos (.inl hhost)]
    · rw [if_neg hhost, if_neg (not_or.2 ⟨hhost, hmem⟩)]
      simp [headersText]

/-! ## Headers that are collected -/

theorem names_shownHeaders : ∀ {entries : List (String × List String)}, HasValues entries →
    (shownHeaders entries).map Prod.fst = (names entries).filter fun name => ¬ NamesHost name
  | [], _ => rfl
  | (name, values) :: entries, h => by
    obtain ⟨hfirst, hrest⟩ := hasValues_cons.1 h
    have ih := names_shownHeaders hrest
    by_cases hhost : NamesHost name
    · rw [shownHeaders_cons_of_host hhost, ih]
      simp [names, hhost]
    · obtain ⟨value, values, rfl⟩ := List.exists_cons_of_ne_nil (hfirst hhost)
      rw [shownHeaders_cons_of_value hhost, List.map_cons, ih]
      simp [names, hhost]

theorem exists_entry_of_mem_shownHeaders {header : String × String}
    (h : header ∈ shownHeaders entries) :
    ∃ values, (header.1, header.2 :: values) ∈ entries := by
  obtain ⟨⟨name, values⟩, hmem, hheader⟩ := List.mem_filterMap.1 h
  obtain ⟨value, hvalue, rfl⟩ := Option.map_eq_some_iff.1 hheader
  obtain ⟨rest, rfl⟩ := List.head?_eq_some_iff.1 hvalue
  exact ⟨rest, (List.mem_filter.1 hmem).1⟩

/-- Entries that are pairs grouped by name show the first pair of every name. -/
theorem shownHeaders_of_groups {pairs : List (String × String)}
    (h : Headers.Groups pairs entries) : shownHeaders entries = firstPairs pairs := by
  have hfirst : ∀ header ∈ shownHeaders entries, pairs.lookup header.1 = some header.2 := by
    intro header hmem
    obtain ⟨values, hentry⟩ := exists_entry_of_mem_shownHeaders hmem
    rw [← Headers.head?_valuesOf, ← h.values _ hentry]
    rfl
  calc shownHeaders entries
    _ = (shownHeaders entries).filterMap some := List.filterMap_some.symm
    _ = (shownHeaders entries).filterMap fun header =>
          (pairs.lookup header.1).map fun value => (header.1, value) :=
        List.filterMap_congr fun header hmem => by rw [hfirst header hmem]; rfl
    _ = firstPairs pairs := by
        rw [firstPairs, ← h.order, ← names_shownHeaders h.hasValues, List.filterMap_map]
        rfl

end Section

open Section

/-- **What one more header shows**: nothing when it is the host's or its name has an entry, and else
its fragment, behind those of the other headers. Headers that are collected from pairs show the
first pair of every name but the host's. -/
theorem querySection_insert (e : Expressions) (r : Request) :
    (∀ text, querySection e r = .ok text →
      text = headersText e (shownHeaders r.headers.entries) ++ optionsText e r ∧
      ∀ name value, querySection e { r with headers := r.headers.insert name value } = .ok
        (if NamesHost name ∨ name ∈ Headers.names r.headers.entries then text
        else headersText e (shownHeaders r.headers.entries) ++ e.header.render ![name, value] ++
          optionsText e r)) ∧
    ∀ pairs, querySection e { r with headers := .ofPairs pairs } =
      .ok (headersText e (firstPairs pairs) ++ optionsText e r) := by
  refine ⟨fun text h => ?_, fun pairs => ?_⟩
  · obtain ⟨hvalues, rfl⟩ := querySection_eq_ok_iff.1 h
    refine ⟨rfl, fun name value => ?_⟩
    have hinsert : HasValues (r.headers.insert name value).entries :=
      hvalues.insertEntry name value
    rw [querySection_of_entries e r hinsert, Headers.insert, headersText_insertEntry e hvalues]
    split_ifs <;> rfl
  · have hgroups : Headers.Groups pairs (Headers.ofPairs pairs).entries :=
      (Headers.run_iff.2 rfl).groups
    rw [querySection_of_entries e r hgroups.hasValues, shownHeaders_of_groups hgroups]

/-- Names that differ from others in case only, the host's, and one that comes twice. -/
theorem querySection_insert_of_case :
    let e := Language.javascript.expressions
    let r : Request := { headers := ⟨[("Host", []), ("prefer", ["a", "b"])]⟩, filter := ["x"] }
    let inserted (name : String) : Request := { r with headers := r.headers.insert name "c" }
    querySection e r = .ok "\n\t.header('prefer','a')\n\t.filter('x')" ∧
    querySection e (inserted "prefer") = querySection e r ∧
    querySection e (inserted "hOST") = querySection e r ∧
    querySection e (inserted "Prefer") =
      .ok "\n\t.header('prefer','a')\n\t.header('Prefer','c')\n\t.filter('x')" ∧
    querySection e
        { r with headers := .ofPairs [("A", "1"), ("HOST", "h"), ("a", "2"), ("A", "3")] } =
      .ok "\n\t.header('A','1')\n\t.header('a','2')\n\t.filter('x')" := by
  intro e r inserted
  have hsection : querySection e r = .ok "\n\t.header('prefer','a')\n\t.filter('x')" := by
    have hvalues : HasValues r.headers.entries := by simp [r, HasValues]; decide
    exact querySection_eq_ok_iff.2 ⟨hvalues, by decide +kernel⟩
  obtain ⟨hinsert, hpairs⟩ := querySection_insert e r
  obtain ⟨-, hinserted⟩ := hinsert _ hsection
  rw [hsection]
  refine ⟨rfl, (hinserted "prefer" "c").trans ?_, (hinserted "hOST" "c").trans ?_,
    (hinserted "Prefer" "c").trans ?_, (hpairs _).trans ?_⟩
  all_goals exact congrArg Except.ok (by decide +kernel)

end QuerySnippet
