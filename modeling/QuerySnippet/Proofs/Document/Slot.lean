/-
One value in the document of a record.

Items are read as members are that have the names of the fields (`ofItems_eq_ok_iff`). So
whether it is a member or an item, a value that a field asks for can be read last, and what
the document holds besides makes one draft, whatever the value (`read_slot`).
-/
import QuerySnippet.Proofs.Document.Change

namespace QuerySnippet

namespace Record

variable {δ α β : Type} {r : Record δ α} {name : String} {fill : Document → Document}

/-- The documents of a record with a place for the value of one field. -/
inductive Slot (r : Record δ α) (name : String) : (Document → Document) → Prop
  /-- The value of a member. -/
  | member (before after : List (String × Document)) :
      Slot r name fun d => .object (before ++ (name, d) :: after)
  /-- The item that has the place of the field. -/
  | item {first rest : List (Field δ)} {field : Field δ} (front back : List Document) :
      r.fields = first ++ field :: rest → field.name = name → front.length = first.length →
      Slot r name fun d => .array (front ++ d :: back)

/-! ## Items as members -/

/-- The items under the names of the fields. -/
def namedItems (fields : List (Field δ)) (items : List Document) : List (String × Document) :=
  List.zipWith (fun field item => (field.name, item)) fields items

theorem nodup_of_independent {fields : List (Field δ)} (hi : fields.Pairwise Field.Independent) :
    (fields.map (·.name)).Nodup :=
  List.pairwise_map.2 (hi.imp Field.Independent.name_ne)

theorem readItems_eq_ok_iff (hn : (r.fields.map (·.name)).Nodup) {fields : List (Field δ)}
    (hsub : fields ⊆ r.fields) (hnodup : (fields.map (·.name)).Nodup) {items : List Document}
    {seen : List String} (hseen : (fields.map (·.name)).Disjoint seen) {draft final : δ} :
    readItems draft fields items = .ok final ↔
      r.readMembers seen draft (namedItems fields items) = .ok final := by
  induction fields generalizing items seen draft with
  | nil => rfl
  | cons field fields ih =>
    cases items with
    | nil => rfl
    | cons item items =>
      rw [List.map_cons, List.nodup_cons] at hnodup
      rw [List.map_cons, List.disjoint_cons_left] at hseen
      have hothers : (fields.map (·.name)).Disjoint (field.name :: seen) :=
        List.disjoint_cons_right.2 ⟨hnodup.1, hseen.2⟩
      have hfield := field?_of_mem hn (hsub List.mem_cons_self)
      rw [namedItems, List.zipWith_cons_cons, readMembers_cons_eq_ok_iff hfield,
        and_iff_right hseen.1, readItems, Except.bind_eq_ok]
      exact exists_congr fun update => and_congr_right fun _ =>
        ih (List.subset_of_cons_subset hsub) hnodup.2 hothers

/-- An array is read as its items are under the names of the fields, if it is not too long. -/
theorem ofItems_eq_ok_iff (hi : r.fields.Pairwise Field.Independent) {items : List Document}
    {a : α} : r.ofItems items = .ok a ↔
      items.length ≤ r.fields.length ∧ r.ofMembers (namedItems r.fields items) = .ok a := by
  have hn := nodup_of_independent hi
  rw [ofItems, Except.bind_eq_ok, ofMembers_eq_ok_iff_draft, ← exists_and_left]
  refine exists_congr fun final => ?_
  rw [and_left_comm, readItems_eq_ok_iff hn (List.Subset.refl _) hn (List.disjoint_nil_right _)]
  refine and_congr_right fun _ => ?_
  cases r.finish final with
  | error name => simp
  | ok b =>
    by_cases hlength : items.length ≤ r.fields.length <;> simp [hlength]

/-! ## The value read last -/

variable {readValue : Document → Except Fault β} {set : β → δ → δ}

/-- The other members make one draft, and the value of a member is set in it. -/
theorem ofMembers_append_cons (hi : r.fields.Pairwise Field.Independent)
    (hfield : r.field? name = some (.of name readValue set))
    {before after : List (String × Document)}
    (hok : ∃ d a, r.ofMembers (before ++ (name, d) :: after) = .ok a) :
    ∃ others, ∀ d a, r.ofMembers (before ++ (name, d) :: after) = .ok a ↔
      ∃ value, readValue d = .ok value ∧ r.finish (set value others) = .ok a := by
  simp only [ofMembers_eq_ok_iff_draft, readMembers_append_cons_iff hi hfield,
    Field.read_of_eq_ok_iff] at hok ⊢
  obtain ⟨-, -, -, ⟨-, hnew, -, -, others, hothers, -⟩, -⟩ := hok
  refine ⟨others, fun d a => ⟨?_, ?_⟩⟩
  · rintro ⟨-, ⟨-, -, -, ⟨value, hread, rfl⟩, others', hothers', rfl⟩, hfinish⟩
    rw [hothers] at hothers'
    cases hothers'
    exact ⟨value, hread, hfinish⟩
  · rintro ⟨value, hread, hfinish⟩
    exact ⟨_, ⟨List.not_mem_nil, hnew, _, ⟨value, hread, rfl⟩, others, hothers, rfl⟩, hfinish⟩

/-- What stands in the rest of the document makes one draft, and the value is set in it. -/
theorem read_slot (hi : r.fields.Pairwise Field.Independent) (hslot : r.Slot name fill)
    (hfield : r.field? name = some (.of name readValue set))
    (hok : ∃ d a, r.read (fill d) = .ok a) :
    ∃ others, ∀ d a, r.read (fill d) = .ok a ↔
      ∃ value, readValue d = .ok value ∧ r.finish (set value others) = .ok a := by
  cases hslot with
  | member before after => exact ofMembers_append_cons hi hfield hok
  | @item first rest field front back hfields hname hlength =>
    have hnamed (d : Document) : namedItems r.fields (front ++ d :: back) =
        namedItems first front ++ (name, d) :: namedItems rest back := by
      rw [hfields, namedItems, List.zipWith_append hlength.symm, List.zipWith_cons_cons, hname]
      rfl
    -- whether the array is too long does not depend on the value
    have hitems (d : Document) (a : α) : r.read (.array (front ++ d :: back)) = .ok a ↔
        (front ++ .null :: back).length ≤ r.fields.length ∧
          r.ofMembers (namedItems first front ++ (name, d) :: namedItems rest back) = .ok a := by
      rw [read, ofItems_eq_ok_iff hi, hnamed]
      simp only [List.length_append, List.length_cons]
    simp only [hitems] at hok ⊢
    obtain ⟨d, a, hlength, ha⟩ := hok
    simpa only [hlength, true_and] using ofMembers_append_cons hi hfield ⟨d, a, ha⟩

end Record

end QuerySnippet
