/-
Headers that are read from a document.

A reader takes the members as they stand, names that come twice and names without
values among them. A run of insertions never makes such headers, so the two agree
exactly when no name comes twice and every name has a value (`eq_ofPairs_iff`). An
insertion into headers that were read looks for the first entry of the name only
(`decode_of_members`).
-/
import QuerySnippet.Proofs.Request.Headers
import QuerySnippet.Proofs.Request.RoundTrip

namespace QuerySnippet.Headers

/-- The pairs that entries stand for: every name with each of its values. -/
def pairsOf (entries : List (String × List String)) : List (String × String) :=
  entries.flatMap fun (name, values) => values.map fun value => (name, value)

variable {entries : List (String × List String)} {pairs : List (String × String)} {name : String}

/-- All values of a new name, one after the other, make one entry. -/
theorem ofPairs_append_values (h : ofPairs pairs = ⟨entries⟩) (hnew : name ∉ names entries)
    {values : List String} (hne : values ≠ []) :
    ofPairs (pairs ++ values.map fun value => (name, value)) = ⟨entries ++ [(name, values)]⟩ := by
  induction values using List.reverseRecOn with
  | nil => exact absurd rfl hne
  | append_singleton values value ih =>
    rw [List.map_append, List.map_singleton, ← List.append_assoc, ofPairs_append_singleton]
    -- The first value makes the entry, every other one goes to its end.
    by_cases hvalues : values = []
    · rw [hvalues, List.map_nil, List.append_nil, h, Headers.insert,
        insertEntry_of_notMem value hnew, List.nil_append]
    · rw [ih hvalues, Headers.insert, insertEntry_append_cons value values [] hnew]

theorem ofPairs_pairsOf (hd : (names entries).Nodup) (hf : ∀ entry ∈ entries, entry.2 ≠ []) :
    ofPairs (pairsOf entries) = ⟨entries⟩ := by
  induction entries using List.reverseRecOn with
  | nil => rfl
  | append_singleton entries entry ih =>
    obtain ⟨name, values⟩ := entry
    have hnames : names (entries ++ [(name, values)]) = names entries ++ [name] := by simp [names]
    rw [hnames, List.nodup_append] at hd
    have hnew : name ∉ names entries := fun hmem => hd.2.2 name hmem name (by simp) rfl
    have hrest : ofPairs (pairsOf entries) = ⟨entries⟩ :=
      ih hd.1 fun entry hmem => hf entry (List.mem_append_left _ hmem)
    have hvalues : values ≠ [] := hf (name, values) (by simp)
    rw [← ofPairs_append_values hrest hnew hvalues]
    simp [pairsOf]

/-- Headers that are read are those that their pairs make when no name comes twice and every name
has a value, and only then. -/
theorem eq_ofPairs_iff (entries : List (String × List String)) :
    ⟨entries⟩ = ofPairs (pairsOf entries) ↔
      (names entries).Nodup ∧ ∀ entry ∈ entries, entry.2 ≠ [] := by
  constructor
  · intro h
    have hgroups : Groups (pairsOf entries) entries := (run_iff.2 h).groups
    exact ⟨hgroups.nodup, hgroups.filled⟩
  · rintro ⟨hd, hf⟩
    exact (ofPairs_pairsOf hd hf).symm

/-- **Headers are the members of their document**, in its order. They are headers that could be
collected when no name comes twice and every name has a value, and only then. An insertion changes
the first entry of its name, or else makes a new one at the end. -/
theorem decode_of_members {json : String} (h : Json.parse json =
      some (.object (entries.map fun (name, values) => (name, .array (values.map .text))))) :
    Json.decode read json = .ok ⟨entries⟩ ∧
    (⟨entries⟩ = ofPairs (pairsOf entries) ↔
      (names entries).Nodup ∧ ∀ entry ∈ entries, entry.2 ≠ []) ∧
    ∀ name value,
      (∀ before values after, entries = before ++ (name, values) :: after → name ∉ names before →
        (Headers.insert ⟨entries⟩ name value).entries =
          before ++ (name, values ++ [value]) :: after) ∧
      (name ∉ names entries →
        (Headers.insert ⟨entries⟩ name value).entries = entries ++ [(name, [value])]) := by
  refine ⟨?_, eq_ofPairs_iff entries, fun name value => ⟨?_, insertEntry_of_notMem value⟩⟩
  · have hread : read (toDocument ⟨entries⟩) = .ok ⟨entries⟩ := read_toDocument ⟨entries⟩
    rw [Json.decode, h]
    exact Except.mapError_eq_ok.2 hread
  · rintro before values after rfl hbefore
    exact insertEntry_append_cons value values after hbefore

/-- A name that comes twice, once with an escape, around one without values. -/
theorem decode_of_members_of_repeated :
    let h : Headers := ⟨[("A", ["x"]), ("B", []), ("A", ["y", "z"])]⟩
    Json.decode read " \x7b\"A\" : [\"x\"],\n\"B\":[], \"\\u0041\":[\"y\", \"z\"]\x7d" = .ok h ∧
      h ≠ ofPairs [("A", "x"), ("A", "y"), ("A", "z")] ∧
      (h.insert "A" "w").entries = [("A", ["x", "w"]), ("B", []), ("A", ["y", "z"])] ∧
      (h.insert "a" "w").entries = [("A", ["x"]), ("B", []), ("A", ["y", "z"]), ("a", ["w"])] := by
  intro h
  have hparse :
      Json.parse " \x7b\"A\" : [\"x\"],\n\"B\":[], \"\\u0041\":[\"y\", \"z\"]\x7d" = some
        (.object (h.entries.map fun (name, values) => (name, .array (values.map .text)))) := rfl
  obtain ⟨hdecode, hcollected, hinsert⟩ := decode_of_members hparse
  refine ⟨hdecode, fun he => ?_, ?_, (hinsert "a" "w").2 (by decide)⟩
  · exact absurd (hcollected.1 he).1 (by decide)
  · exact (hinsert "A" "w").1 [] ["x"] _ rfl (by decide)

end QuerySnippet.Headers
