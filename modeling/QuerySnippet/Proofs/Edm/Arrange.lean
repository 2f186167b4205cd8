/-
Many documents of one type.

In the document of a type the members of every object may change places, the tag among
them, and every object may have members that nobody asks for. A `Shape` says which members
are asked for: those of a record, or of a tagged value with its kind. `Revision` is
one such change, at any depth. A reader that follows a shape keeps what it has read
(`Keeps`): records and tagged values do when the readers inside them do, and types do, by
induction on the depth that their reader allows (`EdmType.keeps_read`).
-/
import QuerySnippet.Edm.Json
import QuerySnippet.Proofs.Document.Change

namespace QuerySnippet

/-! ## Shapes -/

/-- What a part of a document stands for. -/
inductive Shape where
  /-- A text, or a part that nobody asks for. -/
  | plain
  /-- A type. Types are inside types, so its kinds are not part of the shape. -/
  | type
  /-- An array of such parts. -/
  | list (item : Shape)
  /-- A record of these members. -/
  | record (members : List (String × Shape))
  /-- A tagged value of these kinds, each with its members. -/
  | tagged (kinds : List (String × List (String × Shape)))

namespace Shape

/-- A name with its type. -/
def named : Shape := .record [("name", .plain), ("type", .type)]

/-- The kinds of a type. -/
def typeKinds : List (String × List (String × Shape)) := [
  ("collection", [("element_type", .type)]),
  ("structured", [
    ("namespace", .plain),
    ("name", .plain),
    ("declared_properties", .list named)]),
  ("scalar", [("full_name", .plain)])]

/-- The shape itself, a type as a tagged value. -/
def unfold : Shape → Shape
  | type => tagged typeKinds
  | shape => shape

/-- The members of the kind that a tag names, or that it counts. -/
def kindMembers (kinds : List (String × List (String × Shape))) :
    Option Document → List (String × Shape)
  | some (.text name) => (kinds.lookup name).getD []
  | some (.integer position) => (kinds[position.toNat]?.map Prod.snd).getD []
  | _ => []

/-- The members of an object that has this tag. -/
def members (shape : Shape) (tag : Option Document) : List (String × Shape) :=
  match shape.unfold with
  | record members => members
  | tagged kinds => kindMembers kinds tag
  | _ => []

/-- What the member with this name stands for. -/
def underName (members : List (String × Shape)) (name : String) : Shape :=
  (members.lookup name).getD plain

/-- What the member at this place stands for. -/
def atPlace (members : List (String × Shape)) (place : Nat) : Shape :=
  (members[place]?.map Prod.snd).getD plain

/-- What the item at this place stands for, in an array that begins with `tag`. -/
def item (shape : Shape) (tag : Option Document) (place : Nat) : Shape :=
  match shape.unfold with
  | list item => item
  | record members => atPlace members place
  | tagged kinds => atPlace ((Tagged.tagName, plain) :: kindMembers kinds tag) place
  | _ => plain

end Shape

/-! ## Changes -/

mutual

/-- One change to a document of this shape. -/
inductive Revision : Shape → Document → Document → Prop
  /-- A change to the members of an object. -/
  | object {shape : Shape} {members members' : List (String × Document)} :
      MembersRevision (shape.members (members.lookup Tagged.tagName)) members members' →
      Revision shape (.object members) (.object members')
  /-- A change to one item of an array. -/
  | item {shape : Shape} (front : List Document) {d d' : Document} (back : List Document) :
      Revision (shape.item (front ++ d :: back).head? front.length) d d' →
      Revision shape (.array (front ++ d :: back)) (.array (front ++ d' :: back))

/-- One change to the members of an object, of which these are known. -/
inductive MembersRevision : List (String × Shape) →
    List (String × Document) → List (String × Document) → Prop
  /-- The members change places. -/
  | reorder {known : List (String × Shape)} {members members' : List (String × Document)} :
      members.Perm members' → MembersRevision known members members'
  /-- A member comes in that is neither known nor a tag. -/
  | add {known : List (String × Shape)} (before : List (String × Document)) {name : String}
      (value : Document) (after : List (String × Document)) :
      name ≠ Tagged.tagName → name ∉ known.map (·.1) →
      MembersRevision known (before ++ after) (before ++ (name, value) :: after)
  /-- The value of a member is changed. -/
  | inside {known : List (String × Shape)} (before : List (String × Document)) {name : String}
      {value value' : Document} (after : List (String × Document)) :
      Revision (Shape.underName known name) value value' →
      MembersRevision known (before ++ (name, value) :: after) (before ++ (name, value') :: after)

end

variable {δ α β : Type} {shape : Shape} {known : List (String × Shape)}

/-- The reader does not see changes to documents of this shape. -/
def Keeps (shape : Shape) (read : Document → Except Fault α) : Prop :=
  ∀ ⦃d d' : Document⦄ ⦃a : α⦄, Revision shape d d' → read d = .ok a → read d' = .ok a

/-- The members and the items of a record can be changed in the same way. -/
structure KeepsRecord (known : List (String × Shape))
    (ofMembers : List (String × Document) → Except Fault α)
    (ofItems : List Document → Except Fault α) : Prop where
  members : ∀ {members members' a}, MembersRevision known members members' →
    ofMembers members = .ok a → ofMembers members' = .ok a
  items : ∀ {front d d' back a}, Revision (Shape.atPlace known front.length) d d' →
    ofItems (front ++ d :: back) = .ok a → ofItems (front ++ d' :: back) = .ok a

/-! ## Values -/

theorem keeps_readText : Keeps shape Document.readText := by
  intro d d' a h
  cases h <;> nofun

theorem Keeps.readList {read : Document → Except Fault α} (h : Keeps shape read) :
    Keeps (.list shape) (·.readList read) := by
  intro d d' as hedit has
  cases hedit with
  | object => cases has
  | item front back hedit =>
    change (front ++ _ :: back).mapM read = _ at has
    change (front ++ _ :: back).mapM read = _
    obtain ⟨first, hfront, rest, hrest, rfl⟩ := Except.mapM_append_eq_ok.1 has
    obtain ⟨a, ha, rest, hback, rfl⟩ := Except.mapM_cons_eq_ok.1 hrest
    exact Except.mapM_append_eq_ok.2 ⟨first, hfront, a :: rest,
      Except.mapM_cons_eq_ok.2 ⟨a, h hedit ha, rest, hback, rfl⟩, rfl⟩

theorem Keeps.field {name : String} {read : Document → Except Fault β} {set : β → δ → δ}
    (h : Keeps shape read) : Keeps shape (Field.of name read set).read := by
  intro d d' update hedit hread
  obtain ⟨b, hb, rfl⟩ := Field.read_of_eq_ok_iff.1 hread
  exact Field.read_of (h hedit hb)

/-! ## Parts in the same order -/

section Forall₂

variable {γ : Type} {R : α → String × γ → Prop} {as : List α} {bs : List (String × γ)} {a : α}

theorem exists_lookup_of_forall₂ {key : α → String} (hkey : ∀ {a b}, R a b → key a = b.1)
    (h : List.Forall₂ R as bs) {name : String} (ha : as.find? (key · == name) = some a) :
    ∃ b, bs.lookup name = some b ∧ R a (name, b) := by
  induction h with
  | nil => cases ha
  | @cons first member _ _ hfirst _ ih =>
    obtain ⟨other, b⟩ := member
    obtain rfl : key first = other := hkey hfirst
    rw [List.lookup_cons]
    by_cases he : key first = name
    · subst he
      rw [List.find?_cons_of_pos (by simp)] at ha
      cases ha
      exact ⟨b, by rw [beq_self_eq_true], hfirst⟩
    · rw [List.find?_cons_of_neg (by simpa using he)] at ha
      rw [beq_false_of_ne (Ne.symm he)]
      exact ih ha

theorem exists_getElem?_of_forall₂ (h : List.Forall₂ R as bs) {place : Nat}
    (ha : as[place]? = some a) : ∃ b, bs[place]? = some b ∧ R a b := by
  induction h generalizing place with
  | nil => cases ha
  | cons hfirst _ ih =>
    cases place with
    | zero =>
      cases ha
      exact ⟨_, rfl, hfirst⟩
    | succ place => exact ih ha

end Forall₂

/-! ## Records -/

/-- The field has the name of the member, and its reader does not see changes. -/
def Field.Follows (field : Field δ) (member : String × Shape) : Prop :=
  field.name = member.1 ∧ Keeps member.2 field.read

namespace Record

variable {r : Record δ α} {field : Field δ}

theorem keeps_of_field? (hf : List.Forall₂ Field.Follows r.fields known) {name : String}
    (h : r.field? name = some field) :
    name ∈ known.map (·.1) ∧ Keeps (Shape.underName known name) field.read := by
  obtain ⟨shape, hlookup, -, hkeeps⟩ := exists_lookup_of_forall₂ And.left hf h
  refine ⟨by_contra fun hnew => ?_, ?_⟩
  · rw [lookup_eq_none_of_notMem hnew] at hlookup
    cases hlookup
  · rwa [Shape.underName, hlookup]

theorem keeps_of_getElem? (hf : List.Forall₂ Field.Follows r.fields known) {place : Nat}
    (h : r.fields[place]? = some field) : Keeps (Shape.atPlace known place) field.read := by
  obtain ⟨member, hmember, -, hkeeps⟩ := exists_getElem?_of_forall₂ hf h
  rwa [Shape.atPlace, hmember]

/-- The members and the items of a record can be changed when its fields follow them. -/
theorem keepsRecord (hi : r.fields.Pairwise Field.Independent)
    (hf : List.Forall₂ Field.Follows r.fields known) : KeepsRecord known r.ofMembers r.ofItems where
  members h ha := by
    cases h with
    | reorder hperm => exact ofMembers_of_drafts (fun _ => readMembers_perm hi hperm) ha
    | @add _ before name value after hne hnew =>
      have hnone : r.field? name = none := by
        rw [Option.eq_none_iff_forall_ne_some]
        exact fun field hfield => hnew (keeps_of_field? hf hfield).1
      exact ofMembers_of_drafts (fun _ hok => (readMembers_append_cons_of_none hnone).trans hok) ha
    | inside before after hedit =>
      exact ofMembers_of_drafts (fun _ => readMembers_replace fun field hfield _ =>
        (keeps_of_field? hf hfield).2 hedit) ha
  items hedit ha :=
    ofItems_replace (fun field hfield _ => keeps_of_getElem? hf hfield hedit) ha

end Record

theorem KeepsRecord.map {ofMembers : List (String × Document) → Except Fault α}
    {ofItems : List Document → Except Fault α} (h : KeepsRecord known ofMembers ofItems)
    (wrap : α → β) : KeepsRecord known (wrap <$> ofMembers ·) (wrap <$> ofItems ·) where
  members hrevision ha := by
    obtain ⟨b, hb, rfl⟩ := Except.map_eq_ok.1 ha
    exact Except.map_eq_ok.2 ⟨b, h.members hrevision hb, rfl⟩
  items hedit ha := by
    obtain ⟨b, hb, rfl⟩ := Except.map_eq_ok.1 ha
    exact Except.map_eq_ok.2 ⟨b, h.items hedit hb, rfl⟩

theorem KeepsRecord.keeps {r : Record δ α} (h : KeepsRecord known r.ofMembers r.ofItems) :
    Keeps (.record known) r.read := by
  intro d d' a hedit ha
  cases hedit with
  | object hrevision => exact h.members hrevision ha
  | item front back hedit => exact h.items hedit ha

/-! ## Tagged values -/

/-- The kind has this tag and follows these members. -/
def Variant.Follows (variant : Variant α) (kind : String × List (String × Shape)) : Prop :=
  variant.tag = kind.1 ∧ KeepsRecord kind.2 variant.ofMembers variant.ofItems

namespace Tagged

variable {t : Tagged α} {kinds : List (String × List (String × Shape))} {inside : Bool}

theorem read_object_eq_ok_iff {members : List (String × Document)} {a : α} :
    t.read inside (.object members) = .ok a ↔ ∃ name tag variant,
      members.filter (·.1 == tagName) = [(name, tag)] ∧ t.variant inside tag = .ok variant ∧
        variant.ofMembers (members.filter (·.1 != tagName)) = .ok a := by
  rw [read]
  cases members.filter (·.1 == tagName) with
  | nil => simp
  | cons first others =>
    obtain ⟨name, tag⟩ := first
    cases others with
    | nil => simp [Except.bind_eq_ok]
    | cons other others => simp [Except.bind_eq_ok]

theorem read_array_eq_ok_iff {tag : Document} {items : List Document} {a : α} :
    t.read inside (.array (tag :: items)) = .ok a ↔
      ∃ variant, t.variant inside tag = .ok variant ∧ variant.ofItems items = .ok a :=
  Except.bind_eq_ok

theorem keepsRecord_of_variant (hv : List.Forall₂ Variant.Follows t.variants kinds)
    {tag : Document} {variant : Variant α} (h : t.variant inside tag = .ok variant) :
    KeepsRecord (Shape.kindMembers kinds (some tag)) variant.ofMembers variant.ofItems := by
  cases tag with
  | text name =>
    cases hfind : t.variants.find? (·.tag == name) with
    | none => simp [Tagged.variant, hfind] at h
    | some found =>
      obtain ⟨members, hlookup, -, hkeeps⟩ := exists_lookup_of_forall₂ And.left hv hfind
      simp only [Tagged.variant, hfind] at h
      cases h
      rwa [Shape.kindMembers, hlookup]
  | integer position =>
    rw [Tagged.variant] at h
    split at h
    · cases hfind : t.variants[position.toNat]? with
      | none => simp [hfind] at h
      | some found =>
        obtain ⟨kind, hkind, -, hkeeps⟩ := exists_getElem?_of_forall₂ hv hfind
        simp only [hfind] at h
        cases h
        rwa [Shape.kindMembers, hkind]
    · cases h
  | _ => cases h

/-- A tag is nothing that could be changed. -/
theorem not_revision_of_variant {tag tag' : Document} {variant : Variant α}
    (h : t.variant inside tag = .ok variant) : ¬ Revision shape tag tag' := by
  rintro (_ | _) <;> cases h

theorem lookup_of_filter {members others : List (String × Document)} {name : String}
    {tag : Document} (h : members.filter (·.1 == tagName) = (name, tag) :: others) :
    members.lookup tagName = some tag := by
  induction members with
  | nil => cases h
  | cons member members ih =>
    obtain ⟨other, value⟩ := member
    rw [List.lookup_cons]
    by_cases hne : other = tagName
    · rw [List.filter_cons_of_pos (by simpa using hne)] at h
      cases h
      rw [hne, beq_self_eq_true]
    · rw [List.filter_cons_of_neg (by simpa using hne)] at h
      rw [beq_false_of_ne (Ne.symm hne)]
      exact ih h

/-- The members other than the tag can be changed in the same way. -/
theorem revision_filter {members members' : List (String × Document)}
    (h : MembersRevision known members members') :
    MembersRevision known (members.filter (·.1 != tagName)) (members'.filter (·.1 != tagName)) := by
  cases h with
  | reorder hperm => exact .reorder (hperm.filter _)
  | add before value after hne hnew =>
    rw [List.filter_append, List.filter_append, List.filter_cons_of_pos (by simpa using hne)]
    exact .add _ value _ hne hnew
  | @inside _ before name value value' after hrevision =>
    rw [List.filter_append, List.filter_append]
    by_cases hne : name = tagName
    · rw [List.filter_cons_of_neg (by simpa using hne),
        List.filter_cons_of_neg (by simpa using hne)]
      exact .reorder (.refl _)
    · rw [List.filter_cons_of_pos (by simpa using hne),
        List.filter_cons_of_pos (by simpa using hne)]
      exact .inside _ _ hrevision

/-- A change leaves the only tag as it is. -/
theorem filter_eq_of_revision {members members' : List (String × Document)} {name : String}
    {tag : Document} {variant : Variant α} (hvariant : t.variant inside tag = .ok variant)
    (hm : members.filter (·.1 == tagName) = [(name, tag)])
    (h : MembersRevision known members members') :
    members'.filter (·.1 == tagName) = [(name, tag)] := by
  cases h with
  | reorder hperm =>
    have hfilter := hperm.filter (·.1 == tagName)
    rw [hm] at hfilter
    exact (List.singleton_perm.1 hfilter).symm
  | add before value after hne hnew =>
    rwa [List.filter_append, List.filter_cons_of_neg (by simpa using hne), ← List.filter_append]
  | @inside _ before other value value' after hrevision =>
    rw [List.filter_append] at hm ⊢
    by_cases hne : other = tagName
    · rw [List.filter_cons_of_pos (by simpa using hne)] at hm
      obtain ⟨-, hm⟩ | ⟨-, hm⟩ := List.append_eq_singleton_iff.1 hm
      · obtain ⟨hfirst, -⟩ := List.cons.inj hm
        cases hfirst
        exact absurd hrevision (not_revision_of_variant hvariant)
      · cases hm
    · rwa [List.filter_cons_of_neg (by simpa using hne)] at hm ⊢

theorem keeps_read (hshape : shape.unfold = .tagged kinds)
    (hv : List.Forall₂ Variant.Follows t.variants kinds) : Keeps shape (t.read inside) := by
  intro d d' a hrevision ha
  cases hrevision with
  | object hrevision =>
    obtain ⟨name, tag, variant, htag, hvariant, ha⟩ := read_object_eq_ok_iff.1 ha
    have hmembers : shape.members (some tag) = Shape.kindMembers kinds (some tag) := by
      rw [Shape.members, hshape]
    rw [lookup_of_filter htag, hmembers] at hrevision
    have hkeeps := keepsRecord_of_variant hv hvariant
    exact read_object_eq_ok_iff.2 ⟨name, tag, variant,
      filter_eq_of_revision hvariant htag hrevision, hvariant,
      hkeeps.members (revision_filter hrevision) ha⟩
  | item front back hrevision =>
    cases front with
    | nil =>
      obtain ⟨variant, hvariant, -⟩ := read_array_eq_ok_iff.1 ha
      exact absurd hrevision (not_revision_of_variant hvariant)
    | cons tag front =>
      obtain ⟨variant, hvariant, ha⟩ := read_array_eq_ok_iff.1 ha
      have hitem : shape.item (some tag) (front.length + 1) =
          Shape.atPlace (Shape.kindMembers kinds (some tag)) front.length := by
        rw [Shape.item, hshape]
        rfl
      exact read_array_eq_ok_iff.2 ⟨variant, hvariant,
        (keepsRecord_of_variant hv hvariant).items (hitem ▸ hrevision) ha⟩

end Tagged

/-! ## Types -/

namespace EdmType

variable {readType : Document → Except Fault EdmType}

theorem keepsRecord_named (expected : String) (h : Keeps .type readType) :
    KeepsRecord [("name", .plain), ("type", .type)] (named expected readType).ofMembers
      (named expected readType).ofItems :=
  Record.keepsRecord (r := named expected readType) (by simp [named, Field.independent_of])
    (.cons ⟨rfl, keeps_readText.field⟩ (.cons ⟨rfl, h.field⟩ .nil))

/-- The kinds of a type do not see changes when types inside it do not. -/
theorem keeps_tagged (inside : Bool) (h : Keeps .type readType) :
    Keeps .type ((tagged readType).read inside) := by
  have hstructured : (structuredRecord readType).fields.Pairwise Field.Independent := by
    simp [structuredRecord, Field.independent_of]
  refine Tagged.keeps_read rfl (.cons ⟨rfl, ?_⟩ (.cons ⟨rfl, ?_⟩ (.cons ⟨rfl, ?_⟩ .nil)))
  · exact (Record.keepsRecord (r := collectionRecord readType) (List.pairwise_singleton _ _)
      (.cons ⟨rfl, h.field⟩ .nil)).map id
  · exact (Record.keepsRecord hstructured
      (.cons ⟨rfl, keeps_readText.field⟩ (.cons ⟨rfl, keeps_readText.field⟩
        (.cons ⟨rfl, (keepsRecord_named _ h).keeps.readList.field⟩ .nil)))).map id
  · exact (Record.keepsRecord (r := scalarRecord) (List.pairwise_singleton _ _)
      (.cons ⟨rfl, keeps_readText.field⟩ .nil)).map id

theorem keeps_readInside : ∀ limit, Keeps .type (readInside limit)
  | 0 => nofun
  | limit + 1 => keeps_tagged true (keeps_readInside limit)

theorem keeps_readPart : Keeps .type readPart := keeps_readInside depthLimit

theorem keeps_read : Keeps .type read := keeps_tagged false keeps_readPart

end EdmType

end QuerySnippet
