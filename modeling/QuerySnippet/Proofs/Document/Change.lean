/-
Changes to members that a record does not see.

Once a record has been read, its members may change places (`readMembers_perm`), members
that no field asks for may come in anywhere (`readMembers_append_cons_of_none`), and a
member may be left out whose value would leave the draft as it is
(`readMembers_leave_out`). So a member that a field asks for can as well be read last
(`readMembers_append_cons_iff`): what the others make of the draft does not depend on its
value.
-/
import Mathlib.Data.List.Pairwise
import QuerySnippet.Proofs.Document.Members

namespace QuerySnippet

namespace Record

variable {δ α : Type} {r : Record δ α} {field : Field δ} {name : String} {value : Document}
  {members members' before after : List (String × Document)} {seen seen' : List String}
  {draft final : δ}

/-! ## Names read before -/

/-- With fewer names read before, members can still be read. -/
theorem readMembers_of_subset (h : seen' ⊆ seen)
    (hok : r.readMembers seen draft members = .ok final) :
    r.readMembers seen' draft members = .ok final := by
  induction members generalizing seen seen' draft with
  | nil => exact hok
  | cons member members ih =>
    obtain ⟨name, value⟩ := member
    cases hfield : r.field? name with
    | none =>
      rw [readMembers_cons_of_none hfield] at hok ⊢
      exact ih h hok
    | some field =>
      obtain ⟨hseen, update, hread, hrest⟩ := (readMembers_cons_eq_ok_iff hfield).1 hok
      have hcons : name :: seen' ⊆ name :: seen := List.cons_subset_cons name h
      exact (readMembers_cons_eq_ok_iff hfield).2 ⟨mt (h ·) hseen, update, hread, ih hcons hrest⟩

/-- Where all names are known, no name comes twice or has been read before, and every member is
read by a field. -/
theorem nodup_of_readMembers (hknown : ∀ member ∈ members, (r.field? member.1).isSome = true)
    (h : r.readMembers seen draft members = .ok final) :
    (members.map (·.1)).Nodup ∧ (members.map (·.1)).Disjoint seen ∧
      ∀ member ∈ members, ∃ field ∈ r.fields, ∃ update, field.read member.2 = .ok update := by
  induction members generalizing seen draft with
  | nil => simp
  | cons member members ih =>
    obtain ⟨name, value⟩ := member
    obtain ⟨hfirst, hknown⟩ := List.forall_mem_cons.1 hknown
    obtain ⟨field, hfield⟩ := Option.isSome_iff_exists.1 hfirst
    obtain ⟨hseen, update, hread, h⟩ := (readMembers_cons_eq_ok_iff hfield).1 h
    obtain ⟨hnodup, hdisjoint, hreads⟩ := ih hknown h
    obtain ⟨hnew, hdisjoint⟩ := List.disjoint_cons_right.1 hdisjoint
    refine ⟨List.nodup_cons.2 ⟨hnew, hnodup⟩, List.disjoint_cons_left.2 ⟨hseen, hdisjoint⟩, ?_⟩
    exact List.forall_mem_cons.2 ⟨⟨field, (mem_of_field? hfield).1, update, hread⟩, hreads⟩

/-! ## Members that change places -/

/-- What can be read in place of the members behind one can be so with it in front. -/
theorem readMembers_cons_of_imp {member : String × Document}
    (himp : ∀ {seen draft}, r.readMembers seen draft members = .ok final →
      r.readMembers seen draft members' = .ok final)
    (h : r.readMembers seen draft (member :: members) = .ok final) :
    r.readMembers seen draft (member :: members') = .ok final := by
  obtain ⟨name, value⟩ := member
  cases hfield : r.field? name with
  | none =>
    rw [readMembers_cons_of_none hfield] at h ⊢
    exact himp h
  | some field =>
    obtain ⟨hseen, update, hread, hrest⟩ := (readMembers_cons_eq_ok_iff hfield).1 h
    exact (readMembers_cons_eq_ok_iff hfield).2 ⟨hseen, update, hread, himp hrest⟩

theorem commute_of_mem (hi : r.fields.Pairwise Field.Independent) {first second : Field δ}
    (hfirst : first ∈ r.fields) (hsecond : second ∈ r.fields) (hne : first.name ≠ second.name)
    {d d' : Document} {update update' : δ → δ} (hread : first.read d = .ok update)
    (hread' : second.read d' = .ok update') :
    update' (update draft) = update (update' draft) := by
  have hsymm : Std.Symm (Field.Independent (δ := δ)) :=
    ⟨fun f g h => ⟨h.name_ne.symm, fun hf hg draft => (h.commute hg hf draft).symm⟩⟩
  have hne' : first ≠ second := fun he => hne (congrArg Field.name he)
  exact (hi.forall hfirst hsecond hne').commute hread hread' draft

theorem readMembers_swap (hi : r.fields.Pairwise Field.Independent)
    {first second : String × Document}
    (h : r.readMembers seen draft (first :: second :: members) = .ok final) :
    r.readMembers seen draft (second :: first :: members) = .ok final := by
  obtain ⟨name, value⟩ := first
  obtain ⟨name', value'⟩ := second
  cases hfield : r.field? name with
  | none =>
    rw [readMembers_cons_of_none hfield] at h
    cases hfield' : r.field? name' with
    | none =>
      rw [readMembers_cons_of_none hfield'] at h
      rwa [readMembers_cons_of_none hfield', readMembers_cons_of_none hfield]
    | some field' =>
      rw [readMembers_cons_eq_ok_iff hfield'] at h ⊢
      simpa only [readMembers_cons_of_none hfield] using h
  | some field =>
    obtain ⟨hseen, update, hread, h⟩ := (readMembers_cons_eq_ok_iff hfield).1 h
    cases hfield' : r.field? name' with
    | none =>
      rw [readMembers_cons_of_none hfield'] at h ⊢
      exact (readMembers_cons_eq_ok_iff hfield).2 ⟨hseen, update, hread, h⟩
    | some field' =>
      obtain ⟨hseen', update', hread', h⟩ := (readMembers_cons_eq_ok_iff hfield').1 h
      rw [List.mem_cons, not_or] at hseen'
      obtain ⟨hmem, rfl⟩ := mem_of_field? hfield
      obtain ⟨hmem', rfl⟩ := mem_of_field? hfield'
      rw [commute_of_mem hi hmem hmem' (Ne.symm hseen'.1) hread hread'] at h
      rw [readMembers_cons_eq_ok_iff hfield']
      refine ⟨hseen'.2, update', hread', (readMembers_cons_eq_ok_iff hfield).2
        ⟨?_, update, hread, ?_⟩⟩
      · rw [List.mem_cons, not_or]
        exact ⟨Ne.symm hseen'.1, hseen⟩
      · exact readMembers_of_subset (List.Perm.swap field'.name field.name seen).subset h

/-- Members may change places, whatever stands between them. -/
theorem readMembers_perm (hi : r.fields.Pairwise Field.Independent)
    (hperm : members.Perm members') (h : r.readMembers seen draft members = .ok final) :
    r.readMembers seen draft members' = .ok final := by
  induction hperm generalizing seen draft with
  | nil => exact h
  | cons member _ ih => exact readMembers_cons_of_imp ih h
  | swap first second => exact readMembers_swap hi h
  | trans _ _ ih ih' => exact ih' (ih h)

/-! ## Members that come and go -/

/-- A member that no field asks for is passed over, wherever it stands. -/
theorem readMembers_append_cons_of_none (h : r.field? name = none) :
    r.readMembers seen draft (before ++ (name, value) :: after) =
      r.readMembers seen draft (before ++ after) := by
  induction before generalizing seen draft with
  | nil => exact readMembers_cons_of_none h
  | cons member before ih =>
    obtain ⟨other, value'⟩ := member
    simp only [List.cons_append, readMembers, ih]

theorem readMembers_append_singleton_iff (hfield : r.field? name = some field) :
    r.readMembers seen draft (members ++ [(name, value)]) = .ok final ↔
      name ∉ seen ∧ name ∉ members.map (·.1) ∧ ∃ update, field.read value = .ok update ∧
        ∃ others, r.readMembers seen draft members = .ok others ∧ update others = final := by
  induction members generalizing seen draft with
  | nil =>
    rw [List.nil_append, readMembers_cons_eq_ok_iff hfield]
    simp [readMembers]
  | cons member members ih =>
    obtain ⟨other, value'⟩ := member
    rw [List.cons_append]
    cases hother : r.field? other with
    | none =>
      have hne : name ≠ other := by
        rintro rfl
        rw [hfield] at hother
        cases hother
      rw [readMembers_cons_of_none hother, readMembers_cons_of_none hother, ih]
      simp [hne]
    | some field' =>
      simp only [readMembers_cons_eq_ok_iff hother, ih, List.mem_cons, List.map_cons, not_or]
      constructor
      · rintro ⟨hseen, update', hread', ⟨hne, hnew⟩, hmem, update, hread, others, hothers, rfl⟩
        exact ⟨hnew, ⟨hne, hmem⟩, update, hread, others, ⟨hseen, update', hread', hothers⟩, rfl⟩
      · rintro ⟨hnew, ⟨hne, hmem⟩, update, hread, others, ⟨hseen, update', hread', hothers⟩, rfl⟩
        exact ⟨hseen, update', hread', ⟨hne, hnew⟩, hmem, update, hread, others, hothers, rfl⟩

/-- A member that a field asks for can be read last. -/
theorem readMembers_append_cons_iff (hi : r.fields.Pairwise Field.Independent)
    (hfield : r.field? name = some field) :
    r.readMembers seen draft (before ++ (name, value) :: after) = .ok final ↔
      name ∉ seen ∧ name ∉ (before ++ after).map (·.1) ∧ ∃ update, field.read value = .ok update ∧
        ∃ others, r.readMembers seen draft (before ++ after) = .ok others ∧
          update others = final := by
  have hperm : (before ++ (name, value) :: after).Perm (before ++ after ++ [(name, value)]) :=
    List.perm_middle.trans (List.perm_append_singleton _ _).symm
  rw [← readMembers_append_singleton_iff hfield]
  exact ⟨readMembers_perm hi hperm, readMembers_perm hi hperm.symm⟩

/-- A member may be left out whose value would leave the draft as it is before all others. -/
theorem readMembers_leave_out (hi : r.fields.Pairwise Field.Independent)
    (hfield : r.field? name = some field) {update : δ → δ} (hread : field.read value = .ok update)
    (hsame : update draft = draft)
    (h : r.readMembers seen draft (before ++ (name, value) :: after) = .ok final) :
    r.readMembers seen draft (before ++ after) = .ok final := by
  have hfirst := readMembers_perm hi List.perm_middle h
  obtain ⟨-, update', hread', hrest⟩ := (readMembers_cons_eq_ok_iff hfield).1 hfirst
  obtain rfl : update = update' := Except.ok.inj (hread.symm.trans hread')
  rw [hsame] at hrest
  exact readMembers_of_subset (List.subset_cons_self name seen) hrest

/-- A member may have another value that its field reads in the same way, and any value if no field
asks for it. -/
theorem readMembers_replace {value' : Document}
    (hv : ∀ field, r.field? name = some field → ∀ update, field.read value = .ok update →
      field.read value' = .ok update)
    (h : r.readMembers seen draft (before ++ (name, value) :: after) = .ok final) :
    r.readMembers seen draft (before ++ (name, value') :: after) = .ok final := by
  induction before generalizing seen draft with
  | nil =>
    rw [List.nil_append] at h ⊢
    cases hfield : r.field? name with
    | none => rwa [readMembers_cons_of_none hfield] at h ⊢
    | some field =>
      obtain ⟨hseen, update, hread, hrest⟩ := (readMembers_cons_eq_ok_iff hfield).1 h
      exact (readMembers_cons_eq_ok_iff hfield).2
        ⟨hseen, update, hv field hfield update hread, hrest⟩
  | cons member before ih => exact readMembers_cons_of_imp ih h

/-! ## The record itself -/

theorem ofMembers_eq_ok_iff_draft {a : α} : r.ofMembers members = .ok a ↔
    ∃ final, r.readMembers [] r.blank members = .ok final ∧ r.finish final = .ok a := by
  rw [ofMembers, Except.bind_eq_ok]
  exact exists_congr fun final => and_congr_right fun _ => Except.mapError_eq_ok

/-- A record stays as it is when all drafts do that its members can make. -/
theorem ofMembers_of_drafts {a : α} (h : ∀ final, r.readMembers [] r.blank members = .ok final →
    r.readMembers [] r.blank members' = .ok final) (ha : r.ofMembers members = .ok a) :
    r.ofMembers members' = .ok a := by
  obtain ⟨final, hfinal, hfinish⟩ := ofMembers_eq_ok_iff_draft.1 ha
  exact ofMembers_eq_ok_iff_draft.2 ⟨final, h final hfinal, hfinish⟩

/-! ## Items -/

/-- An item may be another that its field reads in the same way. -/
theorem readItems_replace {value' : Document} {fields : List (Field δ)} {front back : List Document}
    (hv : ∀ field, fields[front.length]? = some field → ∀ update, field.read value = .ok update →
      field.read value' = .ok update)
    (h : readItems draft fields (front ++ value :: back) = .ok final) :
    readItems draft fields (front ++ value' :: back) = .ok final := by
  induction front generalizing draft fields with
  | nil =>
    cases fields with
    | nil => exact h
    | cons field fields =>
      obtain ⟨update, hread, hrest⟩ := Except.bind_eq_ok.1 h
      exact Except.bind_eq_ok.2 ⟨update, hv field rfl update hread, hrest⟩
  | cons item front ih =>
    cases fields with
    | nil => exact h
    | cons field fields =>
      obtain ⟨update, hread, hrest⟩ := Except.bind_eq_ok.1 h
      exact Except.bind_eq_ok.2 ⟨update, hread, ih hv hrest⟩

theorem ofItems_replace {a : α} {value' : Document} {front back : List Document}
    (hv : ∀ field, r.fields[front.length]? = some field → ∀ update, field.read value = .ok update →
      field.read value' = .ok update)
    (h : r.ofItems (front ++ value :: back) = .ok a) :
    r.ofItems (front ++ value' :: back) = .ok a := by
  obtain ⟨final, hfinal, hfinish⟩ := Except.bind_eq_ok.1 h
  refine Except.bind_eq_ok.2 ⟨final, readItems_replace hv hfinal, ?_⟩
  simpa only [List.length_append, List.length_cons] using hfinish

end Record

end QuerySnippet
