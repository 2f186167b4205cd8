/-
What a text in a notation denotes, when it has no more than texts under names.

Such a text denotes a finite map: a list of names, each with its text, in any
order. A record whose fields are independent is read from a JSON text or from a
TOML text just as from the map it denotes (`Json.decode_eq_ok_iff`,
`Toml.decode_eq_ok_iff`), so it is the same in both.
-/
import Mathlib.Data.List.Basic
import QuerySnippet.Proofs.Document.Change
import QuerySnippet.Proofs.Json.RoundTrip
import QuerySnippet.Toml.Decode

namespace QuerySnippet

/-- The members with their texts, when `text?` finds one in every value. -/
def textsOf {α : Type} (text? : α → Option String) (members : List (String × α)) :
    Option (List (String × String)) :=
  members.mapM fun (name, value) => (text? value).map (name, ·)

/-- The members of an object of texts. -/
def Document.texts? : Document → Option (List (String × String))
  | object members => textsOf text? members
  | _ => none
where
  text? : Document → Option String
  | text value => some value
  | _ => none

/-- The members of a table of texts. -/
def Toml.Value.texts? : Toml.Value → Option (List (String × String))
  | table members => textsOf text? members
  | _ => none
where
  text? : Toml.Value → Option String
  | text value => some value
  | _ => none

/-- The JSON text is an object of these texts under these names, in any order. -/
def Json.Denotes (json : String) (entries : List (String × String)) : Prop :=
  ∃ texts, (parse json).bind Document.texts? = some texts ∧ texts.Perm entries

/-- The TOML text is a document of these texts under these names, in any order. -/
def Toml.Denotes (toml : String) (entries : List (String × String)) : Prop :=
  ∃ texts, (parse .dotted toml.toList).bind Value.texts? = some texts ∧ texts.Perm entries

/-- The members of an object that holds the texts. -/
def textMembers (texts : List (String × String)) : List (String × Document) :=
  texts.map fun (name, value) => (name, .text value)

theorem textsOf_map {α : Type} {text? : α → Option String} {wrap : String → α}
    (h : ∀ text, text? (wrap text) = some text) : ∀ texts : List (String × String),
      textsOf text? (texts.map fun (name, text) => (name, wrap text)) = some texts
  | [] => rfl
  | (name, text) :: texts => by
    have hrest := textsOf_map h texts
    rw [textsOf] at hrest
    rw [textsOf, List.map_cons, List.mapM_cons, hrest]
    simp only [h]
    rfl

theorem eq_map_of_textsOf {α : Type} {text? : α → Option String} {wrap : String → α}
    (h : ∀ {value text}, text? value = some text → value = wrap text) :
    ∀ {members : List (String × α)} {texts : List (String × String)},
      textsOf text? members = some texts → members = texts.map fun (name, text) => (name, wrap text)
  | [], _, htexts => by cases htexts; rfl
  | (name, value) :: members, texts, htexts => by
    rw [textsOf, List.mapM_cons] at htexts
    obtain ⟨first, hfirst, htexts⟩ := Option.bind_eq_some_iff.1 htexts
    obtain ⟨rest, hrest, htexts⟩ := Option.bind_eq_some_iff.1 htexts
    obtain ⟨text, htext, rfl⟩ := Option.map_eq_some_iff.1 hfirst
    cases htexts
    rw [List.map_cons, h htext, eq_map_of_textsOf h hrest]

theorem Document.eq_of_texts? {d : Document} {texts : List (String × String)}
    (h : d.texts? = some texts) : d = .object (textMembers texts) := by
  cases d with
  | object members =>
    have htexts : textsOf texts?.text? members = some texts := h
    refine congrArg object (eq_map_of_textsOf ?_ htexts)
    intro d content hcontent
    cases d <;> cases hcontent
    rfl
  | _ => cases h

/-- All texts can be denoted: they are when they are written. -/
theorem Json.denotes_write (entries : List (String × String)) :
    Json.Denotes (Json.write (.object (textMembers entries))) entries := by
  have hplain : (Document.object (textMembers entries)).Plain := by
    refine Document.plainMembers_iff.2 fun member hmem => ?_
    obtain ⟨entry, -, rfl⟩ := List.mem_map.1 hmem
    trivial
  refine ⟨entries, ?_, .refl _⟩
  rw [parse_write hplain, Option.bind_some]
  have htext : ∀ text, Document.texts?.text? (.text text) = some text := fun _ => rfl
  exact textsOf_map htext entries

/-- The table that holds the texts. -/
def textTable (texts : List (String × String)) : Toml.Value :=
  .table (texts.map fun (name, value) => (name, .text value))

theorem Toml.Value.eq_of_texts? {v : Toml.Value} {texts : List (String × String)}
    (h : v.texts? = some texts) : v = textTable texts := by
  cases v with
  | table members =>
    have htexts : textsOf texts?.text? members = some texts := h
    refine congrArg table (eq_map_of_textsOf ?_ htexts)
    intro v content hcontent
    cases v <;> cases hcontent
    rfl
  | _ => cases h

theorem Toml.Value.isSound_textTable (texts : List (String × String)) :
    (textTable texts).isSound = true := by
  rw [isSound, textTable, allNumbers]
  induction texts with
  | nil => rfl
  | cons entry texts ih =>
    rw [List.map_cons, allMemberNumbers, ih]
    rfl

theorem Toml.Value.memberDocuments_eq_map : ∀ members : List (String × Value),
    memberDocuments members = members.map fun (name, value) => (name, value.toDocument)
  | [] => rfl
  | _ :: members => congrArg (_ :: ·) (memberDocuments_eq_map members)

/-- Seen as a document, a table of texts holds them in some order. -/
theorem Toml.Value.toDocument_textTable (texts : List (String × String)) : ∃ members,
    (textTable texts).toDocument = .object members ∧ members.Perm (textMembers texts) := by
  have hmembers : memberDocuments (texts.map fun (name, value) => (name, .text value)) =
      textMembers texts := by
    rw [memberDocuments_eq_map, List.map_map]
    rfl
  exact ⟨_, rfl, hmembers ▸ List.mergeSort_perm _ _⟩

/-! ## Records -/

section Decode

variable {δ α : Type} {r : Record δ α} {entries : List (String × String)} {a : α}

theorem ofMembers_textMembers_perm (hi : r.fields.Pairwise Field.Independent)
    (hd : (entries.map (·.1)).Nodup) {members : List (String × Document)}
    {texts : List (String × String)} (hmembers : members.Perm (textMembers texts))
    (htexts : texts.Perm entries) :
    r.ofMembers members = .ok a ↔ r.ofMembers (textMembers entries) = .ok a := by
  have hdistinct : ((textMembers entries).map (·.1)).Nodup := by
    rwa [textMembers, List.map_map]
  exact Record.ofMembers_perm hi (hmembers.trans (htexts.map _)) hdistinct

/-- A record is read from a JSON text as it is from the texts that this denotes. -/
theorem Json.decode_eq_ok_iff (hi : r.fields.Pairwise Field.Independent)
    (hd : (entries.map (·.1)).Nodup) {json : String} (h : Json.Denotes json entries) :
    Json.decode r.read json = .ok a ↔ r.ofMembers (textMembers entries) = .ok a := by
  obtain ⟨texts, htexts, hperm⟩ := h
  obtain ⟨d, hparse, hd'⟩ := Option.bind_eq_some_iff.1 htexts
  cases Document.eq_of_texts? hd'
  rw [Json.decode, hparse]
  exact Except.mapError_eq_ok.trans (ofMembers_textMembers_perm hi hd (.refl _) hperm)

/-- A record is read from a TOML text as it is from the texts that this denotes. -/
theorem Toml.decode_eq_ok_iff (hi : r.fields.Pairwise Field.Independent)
    (hd : (entries.map (·.1)).Nodup) {toml : String} (h : Toml.Denotes toml entries) :
    Toml.decode r.read toml = .ok a ↔ r.ofMembers (textMembers entries) = .ok a := by
  obtain ⟨texts, htexts, hperm⟩ := h
  obtain ⟨v, hparse, hv⟩ := Option.bind_eq_some_iff.1 htexts
  cases Toml.Value.eq_of_texts? hv
  obtain ⟨members, hdocument, hmembers⟩ := Toml.Value.toDocument_textTable texts
  rw [Toml.decode, hparse]
  simp only [Toml.Value.isSound_textTable, if_true, hdocument]
  exact Except.mapError_eq_ok.trans (ofMembers_textMembers_perm hi hd hmembers hperm)

theorem Toml.exists_table_of_parse {reach : Reach} {text : List Char} {value : Value}
    (h : parse reach text = some value) : ∃ members, value = .table members := by
  obtain ⟨⟨final, rest⟩, -, h⟩ := Option.bind_eq_some_iff.1 h
  obtain ⟨-, h⟩ := Option.ite_none_right_eq_some.1 h
  exact ⟨_, (Option.some.inj h).symm⟩

/-- A record takes the members of a TOML text in the order in which they are written. -/
theorem Toml.decode_record_eq_ok_iff (hi : r.fields.Pairwise Field.Independent) {text : String} :
    decode r.read text = .ok a ↔ ∃ members, parse .dotted text.toList = some (.table members) ∧
      (Value.table members).isSound = true ∧
      r.ofMembers (Value.memberDocuments members) = .ok a := by
  rw [decode]
  cases hparse : parse .dotted text.toList with
  | none => simp
  | some value =>
    obtain ⟨members, rfl⟩ := exists_table_of_parse hparse
    have hsorted : r.ofMembers (Value.sorted (Value.memberDocuments members)) = .ok a ↔
        r.ofMembers (Value.memberDocuments members) = .ok a := by
      have hperm := List.mergeSort_perm (Value.memberDocuments members) fun a b => a.1 ≤ b.1
      exact ⟨Record.ofMembers_of_drafts fun _ => Record.readMembers_perm hi hperm,
        Record.ofMembers_of_drafts fun _ => Record.readMembers_perm hi hperm.symm⟩
    simp only [Option.some.injEq, Value.table.injEq, exists_eq_left']
    by_cases hsound : (Value.table members).isSound = true
    · rw [if_pos hsound, Except.mapError_eq_ok, ← hsorted]
      exact (and_iff_right hsound).symm
    · rw [if_neg hsound]
      exact ⟨nofun, fun h => absurd h.1 hsound⟩

end Decode

end QuerySnippet
