/-
Members in any order.

The members of an object are read as they come. When no name comes twice and no
two fields change the same part of the draft, their order does not count: the
draft is what the fields make of it in the order of declaration, each by the
value that stands under its name (`Record.readMembers_eq_ok_iff`). Members
that no field asks for are not looked at.
-/
import Mathlib.Logic.Function.Basic
import QuerySnippet.Proofs.Document.Record

namespace QuerySnippet

variable {δ α β γ : Type}

/-! ## Fields -/

/-- The fields have different names, and it does not count which of them is read first. -/
structure Field.Independent (f g : Field δ) : Prop where
  name_ne : f.name ≠ g.name
  commute : ∀ {d d' : Document} {update update' : δ → δ}, f.read d = .ok update →
    g.read d' = .ok update' → ∀ draft, update' (update draft) = update (update' draft)

theorem Field.read_of_eq_ok_iff {name : String} {read : Document → Except Fault β}
    {set : β → δ → δ} {d : Document} {update : δ → δ} :
    (Field.of name read set).read d = .ok update ↔ ∃ b, read d = .ok b ∧ set b = update :=
  Except.map_eq_ok

theorem Field.independent_of {name name' : String} {read : Document → Except Fault β}
    {read' : Document → Except Fault γ} {set : β → δ → δ} {set' : γ → δ → δ}
    (hname : name ≠ name') (hset : ∀ b b' draft, set' b' (set b draft) = set b (set' b' draft)) :
    (Field.of name read set).Independent (.of name' read' set') where
  name_ne := hname
  commute := by
    intro d d' update update' h h' draft
    obtain ⟨b, -, rfl⟩ := Field.read_of_eq_ok_iff.1 h
    obtain ⟨b', -, rfl⟩ := Field.read_of_eq_ok_iff.1 h'
    exact hset b b' draft

/-! ## Members by their names -/

section Lookup

variable {members members' : List (String × β)} {name : String}

theorem lookup_cons_eq_update (name : String) (value : β) (members : List (String × β)) :
    (((name, value) :: members).lookup ·) =
      Function.update (members.lookup ·) name (some value) := by
  funext other
  by_cases h : other = name
  · simp [h]
  · rw [Function.update_of_ne h, List.lookup_cons, beq_false_of_ne h]

theorem lookup_eq_none_of_notMem (h : name ∉ members.map (·.1)) : members.lookup name = none := by
  rw [List.lookup_eq_none_iff]
  intro member hmem
  have hne : name ≠ member.1 := fun he => h (he ▸ List.mem_map_of_mem hmem)
  exact bne_iff_ne.2 hne

/-- Where no name comes twice, the order does not count. -/
theorem lookup_eq_of_perm (h : members.Perm members') (hd : (members.map (·.1)).Nodup) :
    (members.lookup ·) = (members'.lookup ·) := by
  induction h with
  | nil => rfl
  | cons member _ ih =>
    rw [List.map_cons, List.nodup_cons] at hd
    rw [lookup_cons_eq_update, lookup_cons_eq_update, ih hd.2]
  | swap first second members =>
    have hne : first.1 ≠ second.1 := by
      simp only [List.map_cons, List.nodup_cons, List.mem_cons, not_or] at hd
      exact fun he => hd.1.1 he.symm
    simp only [lookup_cons_eq_update]
    exact Function.update_comm hne _ _ _
  | trans hperm _ ih ih' => exact (ih hd).trans (ih' ((hperm.map _).nodup_iff.1 hd))

theorem lookup_map_values (f : β → γ) (members : List (String × β)) (name : String) :
    (members.map fun (name, value) => (name, f value)).lookup name =
      (members.lookup name).map f := by
  induction members with
  | nil => rfl
  | cons member members ih =>
    rw [List.map_cons, List.lookup_cons, List.lookup_cons, ih]
    cases name == member.1 <;> rfl

end Lookup

namespace Record

/-- Reads the fields in their order, each from the value under its name, if there is one. -/
def readFields (value? : String → Option Document) (draft : δ) : List (Field δ) → Except Fault δ
  | [] => .ok draft
  | field :: fields =>
    match value? field.name with
    | none => readFields value? draft fields
    | some value => do
      let update ← field.read value
      readFields value? (update draft) fields

variable {value? value?' : String → Option Document} {fields : List (Field δ)} {field : Field δ}
  {draft final : δ}

theorem readFields_cons_of_none (h : value? field.name = none) :
    readFields value? draft (field :: fields) = readFields value? draft fields := by
  rw [readFields, h]

theorem readFields_cons_eq_ok_iff {value : Document} (h : value? field.name = some value) :
    readFields value? draft (field :: fields) = .ok final ↔ ∃ update,
      field.read value = .ok update ∧ readFields value? (update draft) fields = .ok final := by
  rw [readFields, h]
  exact Except.bind_eq_ok

/-- Where nothing stands under any name, the draft is left as it is. -/
theorem readFields_none : readFields (fun _ => none) draft fields = .ok draft := by
  induction fields with
  | nil => rfl
  | cons field fields ih => rw [readFields_cons_of_none rfl, ih]

/-- A field that fills a part of the draft fills it with what stands under its name, if that is
there. -/
theorem readFields_of_eq_ok_iff {value? : String → Option Document} {name : String}
    {read : Document → Except Fault β} {set : β → δ → δ} :
    readFields value? draft (.of name read set :: fields) = .ok final ↔
      ∃ b, (value? name).mapM read = .ok b ∧
        readFields value? (b.elim draft (set · draft)) fields = .ok final := by
  have hname : (Field.of name read set).name = name := rfl
  cases hvalue : value? name with
  | none =>
    rw [readFields_cons_of_none (hname ▸ hvalue)]
    exact ⟨fun h => ⟨none, rfl, h⟩, by rintro ⟨_, ⟨⟩, h⟩; exact h⟩
  | some value =>
    rw [readFields_cons_eq_ok_iff (hname ▸ hvalue)]
    simp only [Option.mapM_some, Except.map_eq_ok, Field.read_of_eq_ok_iff]
    constructor
    · rintro ⟨_, ⟨b, hread, rfl⟩, h⟩
      exact ⟨some b, ⟨b, hread, rfl⟩, h⟩
    · rintro ⟨_, ⟨b, hread, rfl⟩, h⟩
      exact ⟨set b, ⟨b, hread, rfl⟩, h⟩

theorem readFields_congr (h : ∀ field ∈ fields, value? field.name = value?' field.name) :
    readFields value? draft fields = readFields value?' draft fields := by
  induction fields generalizing draft with
  | nil => rfl
  | cons field fields ih =>
    obtain ⟨hfirst, hrest⟩ := List.forall_mem_cons.1 h
    simp only [readFields, hfirst, ih hrest]

/-- The fields can be read just when each of them can be read from the value under its name. -/
theorem exists_readFields_iff : (∃ final, readFields value? draft fields = .ok final) ↔
    ∀ field ∈ fields, ∀ value, value? field.name = some value →
      ∃ update, field.read value = .ok update := by
  induction fields generalizing draft with
  | nil => exact ⟨fun _ => nofun, fun _ => ⟨draft, rfl⟩⟩
  | cons field fields ih =>
    rw [List.forall_mem_cons]
    cases hvalue : value? field.name with
    | none =>
      rw [readFields_cons_of_none hvalue, ih]
      exact ⟨fun h => ⟨nofun, h⟩, fun h => h.2⟩
    | some value =>
      simp only [readFields_cons_eq_ok_iff hvalue]
      constructor
      · rintro ⟨final, update, hread, hrest⟩
        exact ⟨by rintro _ ⟨⟩; exact ⟨update, hread⟩, ih.1 ⟨final, hrest⟩⟩
      · rintro ⟨hfirst, hrest⟩
        obtain ⟨update, hread⟩ := hfirst value rfl
        obtain ⟨final, hfinal⟩ := ih.2 hrest
        exact ⟨final, update, hread, hfinal⟩

/-- A value more is the same as its update made before all others. -/
theorem readFields_update (hi : fields.Pairwise Field.Independent) (hmem : field ∈ fields)
    (hnone : value? field.name = none) {value : Document} :
    readFields (Function.update value? field.name (some value)) draft fields = .ok final ↔
      ∃ update, field.read value = .ok update ∧
        readFields value? (update draft) fields = .ok final := by
  induction fields generalizing draft with
  | nil => cases hmem
  | cons first fields ih =>
    obtain ⟨hfirst, hrest⟩ := List.pairwise_cons.1 hi
    rcases List.mem_cons.1 hmem with rfl | hmem
    · have hothers : ∀ draft,
          readFields (Function.update value? field.name (some value)) draft fields =
            readFields value? draft fields := fun draft =>
        readFields_congr fun other h => Function.update_of_ne (hfirst other h).name_ne.symm _ _
      rw [readFields_cons_eq_ok_iff (Function.update_self _ _ _)]
      simp only [hothers, readFields_cons_of_none hnone]
    · have hne : first.name ≠ field.name := (hfirst field hmem).name_ne
      have hsame : Function.update value? field.name (some value) first.name = value? first.name :=
        Function.update_of_ne hne _ _
      cases hvalue : value? first.name with
      | none =>
        rw [readFields_cons_of_none (hsame.trans hvalue), ih hrest hmem]
        simp only [readFields_cons_of_none hvalue]
      | some other =>
        rw [readFields_cons_eq_ok_iff (hsame.trans hvalue)]
        simp only [ih hrest hmem, readFields_cons_eq_ok_iff hvalue]
        -- the update of `field` moves before that of `first`
        constructor
        · rintro ⟨update', hread', update, hread, hok⟩
          rw [(hfirst field hmem).commute hread' hread] at hok
          exact ⟨update, hread, update', hread', hok⟩
        · rintro ⟨update, hread, update', hread', hok⟩
          rw [← (hfirst field hmem).commute hread' hread] at hok
          exact ⟨update', hread', update, hread, hok⟩

/-- **Members are read as the fields are**, when no name comes twice. -/
theorem readMembers_eq_ok_iff {r : Record δ α} (hi : r.fields.Pairwise Field.Independent)
    {members : List (String × Document)} {seen : List String}
    (hdistinct : (members.map (·.1)).Nodup) (hseen : (members.map (·.1)).Disjoint seen)
    {draft final : δ} : r.readMembers seen draft members = .ok final ↔
      readFields (members.lookup ·) draft r.fields = .ok final := by
  induction members generalizing seen draft with
  | nil =>
    change Except.ok draft = _ ↔ readFields (fun _ => none) draft r.fields = _
    rw [readFields_none]
  | cons member members ih =>
    obtain ⟨name, value⟩ := member
    rw [List.map_cons, List.nodup_cons] at hdistinct
    rw [List.map_cons, List.disjoint_cons_left] at hseen
    rw [lookup_cons_eq_update]
    cases hfield : r.field? name with
    | none =>
      have hne : ∀ field ∈ r.fields, field.name ≠ name := by simpa [field?] using hfield
      rw [readMembers_cons_of_none hfield,
        readFields_congr fun field h => Function.update_of_ne (hne field h) _ _]
      exact ih hdistinct.2 hseen.2
    | some field =>
      obtain ⟨hmem, rfl⟩ := mem_of_field? hfield
      have hothers : (members.map (·.1)).Disjoint (field.name :: seen) :=
        List.disjoint_cons_right.2 ⟨hdistinct.1, hseen.2⟩
      rw [readMembers_cons_eq_ok_iff hfield, and_iff_right hseen.1,
        readFields_update hi hmem (lookup_eq_none_of_notMem hdistinct.1)]
      exact exists_congr fun update => and_congr_right fun _ => ih hdistinct.2 hothers

/-- A record is what its fields make of the members, when no name comes twice. -/
theorem ofMembers_eq_ok_iff {r : Record δ α} (hi : r.fields.Pairwise Field.Independent)
    {members : List (String × Document)} (hdistinct : (members.map (·.1)).Nodup) {a : α} :
    r.ofMembers members = .ok a ↔ ∃ final,
      readFields (members.lookup ·) r.blank r.fields = .ok final ∧ r.finish final = .ok a := by
  rw [ofMembers, Except.bind_eq_ok]
  exact exists_congr fun final =>
    and_congr (readMembers_eq_ok_iff hi hdistinct (List.disjoint_nil_right _))
      Except.mapError_eq_ok

/-- The order of members does not count. -/
theorem ofMembers_perm {r : Record δ α} (hi : r.fields.Pairwise Field.Independent)
    {members members' : List (String × Document)} (hperm : members.Perm members')
    (hdistinct : (members'.map (·.1)).Nodup) {a : α} :
    r.ofMembers members = .ok a ↔ r.ofMembers members' = .ok a := by
  have hdistinct' : (members.map (·.1)).Nodup := (hperm.map _).nodup_iff.2 hdistinct
  rw [ofMembers_eq_ok_iff hi hdistinct, ofMembers_eq_ok_iff hi hdistinct',
    lookup_eq_of_perm hperm hdistinct']

end Record

end QuerySnippet
