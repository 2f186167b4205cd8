/-
Texts with a gap for a value.

Whatever text of a value is written into a gap, the whole spells one document, but for that
value. What is written for a plain document has a gap at each of its values: other values
are written there with the same characters around them (`WrittenAround.object`).
-/
import QuerySnippet.Proofs.Json.RoundTrip

namespace QuerySnippet.Json

/-! ## Gaps -/

/-- The characters before and after a value: with any text of a value between them they spell what
`fill` makes of the value. -/
structure Gap (front back : List Char) (fill : Document → Document) : Prop where
  spells : ∀ {cs d}, Spells cs d → Spells (front ++ cs ++ back) (fill d)

/-- The same for a value among the members of an object. -/
structure GapInMembers (front back : List Char)
    (fill : Document → List (String × Document)) : Prop where
  spells : ∀ {cs d}, Spells cs d → SpellsMembers (front ++ cs ++ back)
    ((fill d).map fun (name, value) => (some name, value))

section Gap

variable {front back cs blanks blanks' : List Char} {fill : Document → Document}
  {fillMembers : Document → List (String × Document)} {name : String}
  {members : List (String × Document)}

theorem gap_self : Gap [] [] id where
  spells h := by simpa using h

/-- Blanks around a gap. -/
theorem Gap.padded (h : Gap front back fill) (hb : Blanks blanks) (hb' : Blanks blanks') :
    Gap (blanks ++ front) (back ++ blanks') fill where
  spells hd := by simpa using (h.spells hd).blanks hb hb'

/-- A gap in the value of a member. -/
theorem Gap.member (h : Gap front back fill) (hb : Blanks blanks)
    (hname : SpellsText cs (some name)) (hb' : Blanks blanks') :
    GapInMembers (blanks ++ cs ++ blanks' ++ ':' :: front) back fun d => [(name, fill d)] where
  spells hd := by simpa using SpellsMembers.one hb hname hb' (h.spells hd)

/-- Members before the one with the gap. -/
theorem GapInMembers.behind (h : GapInMembers front back fillMembers)
    (hs : SpellsMembers cs (members.map fun (name, value) => (some name, value))) :
    GapInMembers (cs ++ ',' :: front) back fun d => members ++ fillMembers d where
  spells hd := by simpa using hs.append (h.spells hd)

/-- Members after the one with the gap. -/
theorem GapInMembers.followed (h : GapInMembers front back fillMembers)
    (hs : SpellsMembers cs (members.map fun (name, value) => (some name, value))) :
    GapInMembers front (back ++ ',' :: cs) fun d => fillMembers d ++ members where
  spells hd := by simpa using (h.spells hd).append hs

theorem GapInMembers.object (h : GapInMembers front back fillMembers) :
    Gap ('\x7b' :: front) (back ++ ['\x7d']) fun d => .object (fillMembers d) where
  spells hd := by
    have hobject := Spells.object (h.spells hd)
    rw [objectOf_map_some] at hobject
    simpa using hobject

end Gap

/-! ## Gaps in what is written -/

theorem spellMembers_append {members members' : List (String × Document)} (h : members ≠ [])
    (h' : members' ≠ []) : spellMembers (members ++ members') =
      spellMembers members ++ ',' :: spellMembers members' := by
  induction members with
  | nil => exact absurd rfl h
  | cons member members ih =>
    cases members with
    | nil =>
      obtain ⟨next, rest, rfl⟩ := List.exists_cons_of_ne_nil h'
      simp [spellMembers]
    | cons next members =>
      have ih := ih (by simp)
      simp only [List.cons_append] at ih ⊢
      simp [spellMembers, ih]

/-- There is a gap between the characters, and they are what is written around a value. -/
structure WrittenAround (front back : List Char) (fill : Document → Document) : Prop extends
    Gap front back fill where
  spell_eq : ∀ d, spell (fill d) = front ++ spell d ++ back

/-- The same for a value among the members of an object. -/
structure WrittenInMembers (front back : List Char)
    (fill : Document → List (String × Document)) : Prop extends GapInMembers front back fill where
  spell_eq : ∀ d, spellMembers (fill d) = front ++ spell d ++ back
  ne_nil : ∀ d, fill d ≠ []

section WrittenAround

variable {front back : List Char} {fill : Document → Document}
  {fillMembers : Document → List (String × Document)} {members : List (String × Document)}

theorem writtenAround_self : WrittenAround [] [] id where
  toGap := gap_self
  spell_eq d := by simp

theorem WrittenAround.member (h : WrittenAround front back fill) (name : String) :
    WrittenInMembers (writeText name ++ ':' :: front) back fun d => [(name, fill d)] where
  toGapInMembers := by
    simpa using h.toGap.member blanks_nil (spellsText_writeText name) blanks_nil
  spell_eq d := by simp [spellMembers, h.spell_eq]
  ne_nil d := by simp

theorem WrittenInMembers.behind (h : WrittenInMembers front back fillMembers)
    (hplain : Document.PlainMembers members) :
    ∃ front', WrittenInMembers front' back fun d => members ++ fillMembers d := by
  by_cases hne : members = []
  · subst hne
    exact ⟨front, h⟩
  · refine ⟨_, h.toGapInMembers.behind (spellsMembers_spellMembers members hne hplain), ?_, ?_⟩
    · intro d
      rw [spellMembers_append hne (h.ne_nil d), h.spell_eq]
      simp
    · simp [hne]

theorem WrittenInMembers.followed (h : WrittenInMembers front back fillMembers)
    (hplain : Document.PlainMembers members) :
    ∃ back', WrittenInMembers front back' fun d => fillMembers d ++ members := by
  by_cases hne : members = []
  · subst hne
    simp only [List.append_nil]
    exact ⟨back, h⟩
  · refine ⟨_, h.toGapInMembers.followed (spellsMembers_spellMembers members hne hplain), ?_, ?_⟩
    · intro d
      rw [spellMembers_append (h.ne_nil d) hne, h.spell_eq]
      simp
    · simp [hne]

/-- What is written for an object has a gap at the value of each of its members. -/
theorem WrittenAround.object (h : WrittenAround front back fill) (name : String)
    {before after : List (String × Document)} (hbefore : Document.PlainMembers before)
    (hafter : Document.PlainMembers after) : ∃ front' back', WrittenAround front' back' fun d =>
      .object (before ++ (name, fill d) :: after) := by
  obtain ⟨back', hback⟩ := (h.member name).followed hafter
  obtain ⟨front', hfront⟩ := hback.behind hbefore
  refine ⟨_, _, hfront.toGapInMembers.object, fun d => ?_⟩
  have hspell : spell (.object (before ++ (name, fill d) :: after)) =
      '\x7b' :: spellMembers (before ++ (name, fill d) :: after) ++ ['\x7d'] := rfl
  have hmembers := hfront.spell_eq d
  rw [List.singleton_append] at hmembers
  rw [hspell, hmembers]
  simp

end WrittenAround

end QuerySnippet.Json
