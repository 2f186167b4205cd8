/-
Records and tagged values are read from the documents that they are written
as: every field by its name, in the order of declaration, and the tag first.

`Record.Written` follows the fields and what each of them makes of the draft.
Nothing else is read when their names are different (`ofMembers_of_written`).
-/
import QuerySnippet.Document.Tagged
import QuerySnippet.Proofs.Outcome

namespace QuerySnippet

variable {δ α β : Type}

/-! ## Values -/

namespace Document

theorem readList_array {read : Document → Except Fault α} {write : α → Document} {as : List α}
    (h : ∀ a ∈ as, read (write a) = .ok a) : (array (as.map write)).readList read = .ok as :=
  Except.mapM_map_of_ok h

end Document

theorem Field.read_of {name : String} {read : Document → Except Fault β} {set : β → δ → δ}
    {d : Document} {b : β} (h : read d = .ok b) :
    (Field.of name read set).read d = .ok (set b) := by
  change set <$> read d = _
  rw [h]
  rfl

/-! ## Records -/

namespace Record

variable {r : Record δ α}

/-- The members give every field a value, in order, which takes the draft from one state to
another. -/
inductive Written : List (Field δ) → List (String × Document) → δ → δ → Prop
  | nil {draft} : Written [] [] draft draft
  | cons {field fields value members update draft final} : field.read value = .ok update →
      Written fields members (update draft) final →
      Written (field :: fields) ((field.name, value) :: members) draft final

variable {field : Field δ} {name : String} {value : Document}
  {members : List (String × Document)} {seen : List String} {draft final : δ}

theorem mem_of_field? (h : r.field? name = some field) : field ∈ r.fields ∧ field.name = name :=
  ⟨List.mem_of_find?_eq_some h, by simpa using List.find?_some h⟩

theorem field?_of_mem (hn : (r.fields.map (·.name)).Nodup) (h : field ∈ r.fields) :
    r.field? field.name = some field := by
  rw [field?]
  generalize r.fields = fields at hn h
  induction fields with
  | nil => cases h
  | cons other fields ih =>
    rw [List.map_cons, List.nodup_cons] at hn
    rcases List.mem_cons.1 h with rfl | h
    · simp
    · have hne : other.name ≠ field.name := fun he => hn.1 (he ▸ List.mem_map_of_mem h)
      rw [List.find?_cons_of_neg (by simpa using hne)]
      exact ih hn.2 h

theorem readMembers_cons_of_none (h : r.field? name = none) :
    r.readMembers seen draft ((name, value) :: members) = r.readMembers seen draft members := by
  rw [readMembers, h]

theorem readMembers_cons_eq_ok_iff (h : r.field? name = some field) :
    r.readMembers seen draft ((name, value) :: members) = .ok final ↔ name ∉ seen ∧
      ∃ update, field.read value = .ok update ∧
        r.readMembers (name :: seen) (update draft) members = .ok final := by
  rw [readMembers, h]
  by_cases hseen : name ∈ seen
  · simp [hseen]
  · simp only [if_neg hseen, Except.bind_eq_ok]
    exact (and_iff_right hseen).symm

theorem readMembers_of_written (hn : (r.fields.map (·.name)).Nodup) {fields : List (Field δ)}
    (h : Written fields members draft final) : ∀ {seen : List String},
    fields ⊆ r.fields → (fields.map (·.name)).Nodup → (fields.map (·.name)).Disjoint seen →
      r.readMembers seen draft members = .ok final := by
  induction h with
  | nil => exact fun _ _ _ => rfl
  | @cons field fields value members update draft final hread _ ih =>
    intro seen hsub hnodup hseen
    rw [List.map_cons, List.nodup_cons] at hnodup
    rw [List.map_cons, List.disjoint_cons_left] at hseen
    have hothers : (fields.map (·.name)).Disjoint (field.name :: seen) :=
      List.disjoint_cons_right.2 ⟨hnodup.1, hseen.2⟩
    have hrest : r.readMembers (field.name :: seen) (update draft) members = .ok final :=
      ih (List.subset_of_cons_subset hsub) hnodup.2 hothers
    have hfield := field?_of_mem hn (hsub List.mem_cons_self)
    exact (readMembers_cons_eq_ok_iff hfield).2 ⟨hseen.1, update, hread, hrest⟩

/-- A record is read from members that give its fields in order. -/
theorem ofMembers_of_written (hn : (r.fields.map (·.name)).Nodup) {a : α}
    (h : Written r.fields members r.blank final) (hf : r.finish final = .ok a) :
    r.ofMembers members = .ok a := by
  rw [ofMembers, readMembers_of_written hn h (List.Subset.refl _) hn (List.disjoint_nil_right _)]
  change (r.finish final).mapError _ = _
  rw [hf]
  rfl

end Record

/-! ## Tagged values -/

/-- A tagged value with its tag in front is read by the record of that tag. -/
theorem Tagged.read_object {r : Record δ α} {t : Tagged β} (inside : Bool) {tag : String}
    (wrap : α → β) {members : List (String × Document)} {a : α}
    (hv : t.variants.find? (·.tag == tag) = some (r.variant tag wrap))
    (hm : ∀ member ∈ members, member.1 ≠ tagName) (h : r.ofMembers members = .ok a) :
    t.read inside (.object ((tagName, .text tag) :: members)) = .ok (wrap a) := by
  have hfilter : members.filter (·.1 == tagName) = [] := by simpa using hm
  have hothers : members.filter (·.1 != tagName) = members := by simpa using hm
  have hkind : t.variant inside (.text tag) = .ok (r.variant tag wrap) := by
    rw [Tagged.variant, hv]
  have hread : (r.variant tag wrap).ofMembers members = .ok (wrap a) := by
    change wrap <$> r.ofMembers members = _
    rw [h]
    rfl
  simp [Tagged.read, hfilter, hothers, hkind, hread, bind, Except.bind]

end QuerySnippet
