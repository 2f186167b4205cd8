/-
Many documents of one request.

A request is written with all of its members in one order, and read from many other
documents: the members of the request and those of its paging options may change places,
those that are as by default may be left out, and any others may come in. Each of these is
one constructor of `Loosening`, a step that no reader sees (`Loosening.read_eq`). So
every text of a document that such steps lead to is read as the request
(`ofJson_of_loosened`), whatever blanks it has. Headers are no record: there the order is
part of the request.
-/
import Mathlib.Logic.Relation
import QuerySnippet.Proofs.Document.Change
import QuerySnippet.Proofs.Request.RoundTrip

namespace QuerySnippet

/-! ## Members of a record -/

/-- One change to members, of which these are the ones by default, that leaves what they say. -/
inductive Record.Loosening (defaults : List (String × Document)) :
    List (String × Document) → List (String × Document) → Prop
  /-- The members change places. -/
  | reorder {members members' : List (String × Document)} : members.Perm members' →
      Loosening defaults members members'
  /-- A member that is as by default is left out. -/
  | leaveOut (before : List (String × Document)) {member : String × Document}
      (after : List (String × Document)) : member ∈ defaults →
      Loosening defaults (before ++ member :: after) (before ++ after)
  /-- A member that is none of the known ones comes in. -/
  | add (before : List (String × Document)) {name : String} (value : Document)
      (after : List (String × Document)) : name ∉ defaults.map (·.1) →
      Loosening defaults (before ++ after) (before ++ (name, value) :: after)

namespace Record

variable {δ α : Type} {r : Record δ α}

/-- The record has just these members, and its draft has them before anything is read. -/
structure HasDefaults (r : Record δ α) (defaults : List (String × Document)) : Prop where
  independent : r.fields.Pairwise Field.Independent
  known : ∀ name field, r.field? name = some field → name ∈ defaults.map (·.1)
  blank : ∀ member ∈ defaults, ∃ field update, r.field? member.1 = some field ∧
    field.read member.2 = .ok update ∧ update r.blank = r.blank

theorem ofMembers_of_loosening {defaults members members' : List (String × Document)} {a : α}
    (hd : r.HasDefaults defaults) (h : Loosening defaults members members')
    (ha : r.ofMembers members = .ok a) : r.ofMembers members' = .ok a := by
  cases h with
  | reorder hperm => exact ofMembers_of_drafts (fun _ => readMembers_perm hd.independent hperm) ha
  | @leaveOut before member after hmem =>
    obtain ⟨field, update, hfield, hread, hblank⟩ := hd.blank member hmem
    exact ofMembers_of_drafts
      (fun _ => readMembers_leave_out hd.independent hfield hread hblank) ha
  | @add before name value after hname =>
    have hfield : r.field? name = none := by
      rw [Option.eq_none_iff_forall_ne_some]
      exact fun field hfield => hname (hd.known name field hfield)
    exact ofMembers_of_drafts (fun _ hok => (readMembers_append_cons_of_none hfield).trans hok) ha

end Record

/-! ## Paging options -/

namespace Paging

/-- The paging options by default. -/
def defaults : List (String × Document) := [("skip", .null), ("skip_token", .null), ("top", .null)]

theorem independent_fields : record.fields.Pairwise Field.Independent := by
  simp [record, Field.independent_of]

theorem hasDefaults : record.HasDefaults defaults where
  independent := independent_fields
  known name field h := by
    obtain ⟨hmem, rfl⟩ := Record.mem_of_field? h
    exact List.mem_map_of_mem (f := Field.name) hmem
  blank := by
    simp only [defaults, List.forall_mem_cons, List.not_mem_nil, false_imp_iff, implies_true,
      and_true]
    exact ⟨⟨_, _, rfl, rfl, rfl⟩, ⟨_, _, rfl, rfl, rfl⟩, ⟨_, _, rfl, rfl, rfl⟩⟩

end Paging

/-! ## Requests -/

namespace Request

/-- The members of a request by default. -/
def defaults : List (String × Document) := [
  ("request_headers", .object []),
  ("filter_field_list", .array []),
  ("expand_field_list", .array []),
  ("select_field_list", .array []),
  ("order_by_field_list", .array []),
  ("search_expression", .null),
  ("odata_uri", .object Paging.defaults)]

theorem independent_fields : record.fields.Pairwise Field.Independent := by
  simp [record, Field.independent_of]

theorem hasDefaults : record.HasDefaults defaults where
  independent := independent_fields
  known name field h := by
    obtain ⟨hmem, rfl⟩ := Record.mem_of_field? h
    exact List.mem_map_of_mem (f := Field.name) hmem
  blank := by
    simp only [defaults, List.forall_mem_cons, List.not_mem_nil, false_imp_iff, implies_true,
      and_true]
    and_intros
    all_goals exact ⟨_, _, rfl, rfl, rfl⟩

/-- One change to the document of a request that leaves what it says. -/
inductive Loosening : Document → Document → Prop
  /-- A change to its members. -/
  | members {members members' : List (String × Document)} :
      Record.Loosening defaults members members' → Loosening (.object members) (.object members')
  /-- A change to the members of its paging options. -/
  | paging (before : List (String × Document)) {options options' : List (String × Document)}
      (after : List (String × Document)) : Record.Loosening Paging.defaults options options' →
      Loosening (.object (before ++ ("odata_uri", .object options) :: after))
        (.object (before ++ ("odata_uri", .object options') :: after))

/-- Any number of such changes. -/
abbrev Loosened := Relation.ReflTransGen Loosening

theorem Loosening.read_eq {d d' : Document} {r : Request} (h : Loosening d d')
    (hr : record.read d = .ok r) : record.read d' = .ok r := by
  cases h with
  | members h => exact Record.ofMembers_of_loosening hasDefaults h hr
  | paging before after h =>
    refine Record.ofMembers_of_drafts (fun _ => Record.readMembers_replace ?_) hr
    rintro field ⟨⟩ update hread
    obtain ⟨p, hp, rfl⟩ := Field.read_of_eq_ok_iff.1 hread
    exact Field.read_of (Record.ofMembers_of_loosening Paging.hasDefaults h hp)

theorem read_of_loosened {d : Document} {r : Request} (h : Loosened r.toDocument d) :
    record.read d = .ok r := by
  induction h with
  | refl => exact r.read_toDocument
  | tail _ hstep ih => exact hstep.read_eq ih

theorem ofJson_of_spells {cs : List Char} {d : Document} {r : Request} (hspells : Json.Spells cs d)
    (h : record.read d = .ok r) : ofJson (String.ofList cs) = .ok r := by
  rw [ofJson, Json.decode, Json.parse_of_spells hspells]
  exact Except.mapError_eq_ok.2 h

/-- **Every loosened text of a request is read as the request**: whatever has been done to its
document, and however that is spelled. A text whose headers are in another order is not. -/
theorem ofJson_of_loosened (r : Request) :
    Json.Spells r.toJson.toList r.toDocument ∧
    (∀ d cs, Loosened r.toDocument d → Json.Spells cs d → ofJson (String.ofList cs) = .ok r) ∧
    ∀ headers, headers.entries.Perm r.headers.entries → headers ≠ r.headers →
      ∀ d cs, Loosened { r with headers := headers }.toDocument d → Json.Spells cs d →
        ofJson (String.ofList cs) ≠ .ok r := by
  refine ⟨?_, fun d cs hd hspells => ofJson_of_spells hspells (read_of_loosened hd), ?_⟩
  · rw [toJson, Json.write, String.toList_ofList]
    exact Json.spells_spell r.plain_toDocument
  · intro headers _ hne d cs hd hspells hok
    rw [ofJson_of_spells hspells (read_of_loosened hd)] at hok
    exact hne (congrArg Request.headers (Except.ok.inj hok))

/-- Blanks, members in other places, some left out and one that nobody knows; then headers in
other places. -/
theorem ofJson_of_loosened_two_headers :
    ofJson ("\x7b\"note\" : [\"\\ud800\", true],\"odata_uri\":\x7b\"top\":5\x7d," ++
        "\"request_headers\":\x7b\"A\":[],\"B\":[]\x7d\x7d\n") =
      .ok { headers := ⟨[("A", []), ("B", [])]⟩, paging := { top := some 5 } } ∧
    ofJson ("\x7b\"note\":null,\"request_headers\":\x7b\"B\":[],\"A\":[]\x7d," ++
        "\"odata_uri\":\x7b\"top\":5\x7d\x7d") ≠
      .ok { headers := ⟨[("A", []), ("B", [])]⟩, paging := { top := some 5 } } := by
  have hloosened (headers : Headers) (note : Document) :
      Loosened { headers, paging := { top := some 5 } : Request }.toDocument
        (.object [("note", note), ("request_headers", headers.toDocument),
          ("odata_uri", .object [("top", .integer 5)])]) := by
    have hnew : "note" ∉ defaults.map (·.1) := by decide
    refine .trans (.single (.members (.add [] note _ hnew))) ?_
    iterate 5 refine .trans (.single (.members (.leaveOut [_, _] _ (by simp [defaults]; rfl)))) ?_
    refine .trans (.single (.paging [_, _] _ (.leaveOut [] _ (.head _)))) ?_
    exact .single (.paging [_, _] _ (.leaveOut [] _ (.tail _ (.head _))))
  have hpaging : (Document.object [("top", .integer 5)]).Plain := ⟨.inl (by decide), trivial⟩
  have hblank (c : Char) (hc : Json.isBlank c) : Json.Blanks [c] := List.forall_mem_singleton.2 hc
  have hhalf : Json.SpellsText "\"\\ud800\"".toList none := by
    refine ⟨[(['\\', 'u', 'd', '8', '0', '0'], .ofUnit 0xd800)], ?_, rfl, rfl⟩
    exact List.forall_mem_singleton.2
      (.unit (k := 13) (l := 8) (m := 0) (n := 0) (by decide) (by decide) (by decide) (by decide))
  have hnote : Json.Spells "[\"\\ud800\", true]".toList
      (.array [.unreadable .loneSurrogate, .boolean true]) :=
    .array (.append (.one (.surrogate hhalf))
      (.one (.blanks (hblank ' ' rfl) .true Json.blanks_nil)))
  have h := ofJson_of_loosened { headers := ⟨[("A", []), ("B", [])]⟩, paging := { top := some 5 } }
  constructor
  · have hmembers := Json.SpellsMembers.append
      (.one Json.blanks_nil (Json.spellsText_writeText "note") (hblank ' ' rfl)
        (.blanks (hblank ' ' rfl) hnote Json.blanks_nil))
      (.append
        (.one Json.blanks_nil (Json.spellsText_writeText "odata_uri") Json.blanks_nil
          (Json.spells_spell hpaging))
        (.one Json.blanks_nil (Json.spellsText_writeText "request_headers") Json.blanks_nil
          (Json.spells_spell (Headers.plain_toDocument ⟨[("A", []), ("B", [])]⟩))))
    exact h.2.1 _ _ (.tail (hloosened _ _) (.members (.reorder (.cons _ (.swap _ _ _)))))
      (.blanks Json.blanks_nil (.object hmembers) (hblank '\n' rfl))
  · have hspells := Json.spells_spell (d := .object [("note", .null),
      ("request_headers", Headers.toDocument ⟨[("B", []), ("A", [])]⟩),
      ("odata_uri", .object [("top", .integer 5)])])
      ⟨trivial, Headers.plain_toDocument _, hpaging, trivial⟩
    exact h.2.2 ⟨[("B", []), ("A", [])]⟩ (.swap _ _ _) (by decide) _ _ (hloosened _ .null) hspells

end Request

end QuerySnippet
