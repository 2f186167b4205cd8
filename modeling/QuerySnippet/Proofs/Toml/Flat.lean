/-
Documents without tables.

What a line says is read without what came before it (`line_eq`). Once a document has a table
it keeps one (`hasTable_lines`), and the only members that leave it without are those with a
name of their own at the top. These do not ask which tables dotted keys may add to, so that
makes no difference to a document that ends without tables (`parse_implied_of_flat`).
-/
import Mathlib.Data.List.Basic
import QuerySnippet.Toml.Parse

namespace QuerySnippet.Toml

/-! ## Tables among members -/

/-- A part that more can be added to: a table or a list of tables. -/
def Node.isTable : Node → Bool
  | .value _ => false
  | _ => true

/-- A value that holds no others. -/
def Value.isAtom : Value → Bool
  | .array _ | .table _ => false
  | _ => true

namespace Members

variable {name : String} {members members' : Members}

/-- There is a table or a list of tables among the members. -/
def HasTable (members : Members) : Prop := ∃ member ∈ members, member.2.isTable = true

/-- A change makes one member, at the end or in place of the one with its name. -/
theorem update_cases {change : Option Node → Option Node} :
    ∀ {members members' : Members}, update name change members = some members' →
      ∃ front back node, members' = front ++ (name, node) :: back ∧
        ((members = front ∧ back = [] ∧ change none = some node) ∨
          ∃ old, members = front ++ (name, old) :: back ∧ change (some old) = some node)
  | [], members', h => by
    obtain ⟨node, hnode, h⟩ := Option.bind_eq_some_iff.1 h
    cases h
    exact ⟨[], [], node, rfl, .inl ⟨rfl, rfl, hnode⟩⟩
  | (other, old) :: members, members', h => by
    rw [update] at h
    split_ifs at h with hother
    · obtain ⟨node, hnode, h⟩ := Option.bind_eq_some_iff.1 h
      cases h
      exact ⟨[], members, node, rfl, .inr ⟨old, by rw [hother]; rfl, hnode⟩⟩
    · obtain ⟨rest, hrest, rfl⟩ := Option.map_eq_some_iff.1 h
      obtain ⟨front, back, node, rfl, hcases⟩ := update_cases hrest
      refine ⟨(other, old) :: front, back, node, rfl, ?_⟩
      rcases hcases with ⟨rfl, rfl, hnode⟩ | ⟨found, rfl, hnode⟩
      · exact .inl ⟨rfl, rfl, hnode⟩
      · exact .inr ⟨found, rfl, hnode⟩

theorem hasTable_of_update {change : Option Node → Option Node}
    (hchange : ∀ old node, change old = some node → node.isTable = true)
    (h : update name change members = some members') : members'.HasTable := by
  obtain ⟨front, back, node, rfl, hcases⟩ := update_cases h
  refine ⟨(name, node), List.mem_append_right _ List.mem_cons_self, ?_⟩
  rcases hcases with ⟨-, -, hnode⟩ | ⟨old, -, hnode⟩
  · exact hchange _ _ hnode
  · exact hchange _ _ hnode

/-- A header makes the table it names, and those around it. -/
theorem hasTable_of_define (h : define name members = some members') : members'.HasTable := by
  refine hasTable_of_update (fun old node hnode => ?_) h
  split at hnode
  all_goals cases hnode
  all_goals rfl

theorem hasTable_of_extend (h : extend name members = some members') : members'.HasTable := by
  refine hasTable_of_update (fun old node hnode => ?_) h
  split at hnode
  all_goals cases hnode
  all_goals rfl

/-- A way that goes through a table leaves one. -/
theorem hasTable_of_within_cons {change : Members → Option Members} {path : List String}
    (h : within change (name :: path) members = some members') : members'.HasTable := by
  refine hasTable_of_update (fun old node hnode => ?_) h
  split at hnode
  case h_4 => cases hnode
  all_goals
    obtain ⟨_, -, rfl⟩ := Option.map_eq_some_iff.1 hnode
    rfl

theorem hasTable_of_within {change : Members → Option Members} {path : List String}
    (hchange : ∀ {members members'}, change members = some members' → members'.HasTable)
    (h : within change path members = some members') : members'.HasTable := by
  cases path with
  | nil => exact hchange h
  | cons name path => exact hasTable_of_within_cons h

/-- So does a dotted key. -/
theorem hasTable_of_assign_cons {reach : Reach} {item : Value} {next : String}
    {path : List String} (h : assign reach item name (next :: path) members = some members') :
    members'.HasTable := by
  refine hasTable_of_update (fun old node hnode => ?_) h
  split at hnode
  case h_3 =>
    cases reach with
    | implied =>
      obtain ⟨_, -, rfl⟩ := Option.map_eq_some_iff.1 hnode
      rfl
    | dotted =>
      simp only at hnode
      split_ifs at hnode
      obtain ⟨_, -, rfl⟩ := Option.map_eq_some_iff.1 hnode
      rfl
  case h_4 =>
    split_ifs at hnode
    obtain ⟨_, -, rfl⟩ := Option.map_eq_some_iff.1 hnode
    rfl
  case h_5 => cases hnode
  all_goals
    obtain ⟨_, -, rfl⟩ := Option.map_eq_some_iff.1 hnode
    rfl

/-- A member with a name of its own takes no table away. -/
theorem HasTable.assign_nil {reach : Reach} {item : Value} (hmembers : members.HasTable)
    (h : assign reach item name [] members = some members') : members'.HasTable := by
  obtain ⟨front, back, node, rfl, ⟨rfl, rfl, -⟩ | ⟨old, -, hnode⟩⟩ := update_cases h
  · obtain ⟨member, hmember, htable⟩ := hmembers
    exact ⟨member, List.mem_append_left _ hmember, htable⟩
  · cases hnode

theorem closeMembers_eq_map : ∀ members : Members,
    closeMembers members = members.map fun member => (member.1, closeNode member.2)
  | [] => rfl
  | (name, node) :: members => by rw [closeMembers, closeMembers_eq_map members, List.map_cons]

/-- Where only atoms come out there were no tables. -/
theorem not_hasTable_of_isAtom (h : ∀ member ∈ closeMembers members, member.2.isAtom = true) :
    ¬ members.HasTable := by
  rintro ⟨⟨name, node⟩, hmember, htable⟩
  rw [closeMembers_eq_map] at h
  have hatom := h _ (List.mem_map_of_mem hmember)
  cases node with
  | value => cases htable
  | table => cases hatom
  | tables => cases hatom

end Members

namespace Reader

variable {α β : Type} {cs : List Char}

/-! ## What one line says -/

/-- What stands in a line. -/
inductive Entry where
  /-- Nothing, or a comment. -/
  | nothing
  /-- A header `[[path.last]]`. -/
  | tables (path : List String) (last : String)
  /-- A header `[path.last]`. -/
  | table (path : List String) (last : String)
  /-- A member with its value. -/
  | member (path : List String) (last : String) (value : Value)

/-- Reads one line. -/
def entry : Reader Entry := do
  blanks
  if ← tryToken "[[" then
    blanks
    let (path, last) ← key
    blanks
    token "]]"
    pure (.tables path last)
  else if ← tryToken "[" then
    blanks
    let (path, last) ← key
    blanks
    token "]"
    pure (.table path last)
  else
    match (← get) with
    | [] | '\n' :: _ | '\r' :: _ | '#' :: _ => pure .nothing
    | _ =>
      let (path, last) ← key
      blanks
      token "="
      blanks
      let item ← value nestLimit
      pure (.member path last item)

/-- The document with one more line. -/
def State.add (reach : Reach) (s : State) : Entry → Option State
  | .nothing => some s
  | .tables path last =>
    (s.root.within (Members.extend last) path).map fun root => ⟨root, path ++ [last]⟩
  | .table path last =>
    (s.root.within (Members.define last) path).map fun root => ⟨root, path ++ [last]⟩
  | .member path last item =>
    (s.root.within (Members.assign reach item last path) s.path).map fun root => { s with root }

theorem liftM_map (f : α → β) (x : Option α) :
    (liftM (x.map f) : Reader β) = liftM x >>= fun a => pure (f a) := by
  cases x <;> rfl

/-- A line is read first, and then added to the document. -/
theorem line_eq (reach : Reach) (s : State) :
    line reach s = entry >>= fun e => liftM (s.add reach e) := by
  unfold line entry
  simp only [bind_assoc]
  refine bind_congr fun _ => bind_congr fun isTables => ?_
  cases isTables with
  | true => simp only [if_true, bind_assoc, pure_bind, State.add, liftM_map]
  | false =>
    simp only [Bool.false_eq_true, if_false, bind_assoc]
    refine bind_congr fun isTable => ?_
    cases isTable with
    | true => simp only [if_true, bind_assoc, pure_bind, State.add, liftM_map]
    | false =>
      simp only [Bool.false_eq_true, if_false, bind_assoc]
      refine bind_congr fun cs => ?_
      split
      case h_5 => simp only [bind_assoc, pure_bind, State.add, liftM_map]
      all_goals rfl

/-! ## Line after line -/

theorem bind_eq_some_iff {x : Reader α} {f : α → Reader β} {r : β × List Char} :
    (x >>= f) cs = some r ↔ ∃ a rest, x cs = some (a, rest) ∧ f a rest = some r := by
  change (x cs).bind (fun p => f p.1 p.2) = _ ↔ _
  rw [Option.bind_eq_some_iff]
  exact Prod.exists

theorem liftM_eq_some_iff {x : Option α} {a : α} {rest : List Char} :
    (liftM x : Reader α) cs = some (a, rest) ↔ x = some a ∧ cs = rest := by
  cases x with
  | none => exact ⟨nofun, nofun⟩
  | some b =>
    change some (b, cs) = some (a, rest) ↔ _
    simp only [Option.some.injEq, Prod.mk.injEq]

/-- Lines are read one by one, each with its end. -/
theorem lines_succ_eq_some_iff {reach : Reach} {limit : Nat} {s : State} {r : State × List Char} :
    lines reach (limit + 1) s cs = some r ↔
      ∃ e rest, entry cs = some (e, rest) ∧ ∃ s', s.add reach e = some s' ∧
        ∃ rest', lineEnd rest = some ((), rest') ∧
          (if rest'.isEmpty then some (s', rest') else lines reach limit s' rest') = some r := by
  have hnext : ∀ s' rest', ((do
      if (← get).isEmpty then pure s' else lines reach limit s' : Reader State) rest') =
        if rest'.isEmpty then some (s', rest') else lines reach limit s' rest' := fun s' rest' => by
    change (if rest'.isEmpty then (pure s' : Reader State) else lines reach limit s') rest' = _
    split_ifs <;> rfl
  rw [lines, line_eq, bind_assoc, bind_eq_some_iff]
  refine exists_congr fun e => exists_congr fun rest => and_congr_right fun _ => ?_
  rw [bind_eq_some_iff]
  refine exists_congr fun s' => ?_
  simp only [liftM_eq_some_iff, and_assoc, exists_and_left, exists_eq_left']
  refine and_congr_right fun _ => bind_eq_some_iff.trans (Unique.exists_iff.trans ?_)
  exact exists_congr fun rest' => and_congr_right fun _ => by rw [hnext]

variable {s s' : State} {e : Entry}

/-- A document with a table keeps one. -/
theorem hasTable_add {reach : Reach} (hs : s.root.HasTable) (h : s.add reach e = some s') :
    s'.root.HasTable := by
  cases e with
  | nothing => cases h; exact hs
  | tables path last =>
    obtain ⟨root, hroot, rfl⟩ := Option.map_eq_some_iff.1 h
    exact Members.hasTable_of_within Members.hasTable_of_extend hroot
  | table path last =>
    obtain ⟨root, hroot, rfl⟩ := Option.map_eq_some_iff.1 h
    exact Members.hasTable_of_within Members.hasTable_of_define hroot
  | member path last item =>
    obtain ⟨root, hroot, rfl⟩ := Option.map_eq_some_iff.1 h
    cases hpath : s.path with
    | cons name names =>
      rw [hpath] at hroot
      exact Members.hasTable_of_within_cons hroot
    | nil =>
      rw [hpath] at hroot
      cases path with
      | nil => exact hs.assign_nil hroot
      | cons next path => exact Members.hasTable_of_assign_cons hroot

/-- A line that leaves a document without tables opens none, and says the same wherever dotted keys
reach. -/
theorem add_implied_of_flat (hpath : s.path = []) (h : s.add .dotted e = some s')
    (hflat : ¬ s'.root.HasTable) : s'.path = [] ∧ s.add .implied e = some s' := by
  cases e with
  | nothing => cases h; exact ⟨hpath, rfl⟩
  | tables path last =>
    obtain ⟨root, hroot, rfl⟩ := Option.map_eq_some_iff.1 h
    exact absurd (Members.hasTable_of_within Members.hasTable_of_extend hroot) hflat
  | table path last =>
    obtain ⟨root, hroot, rfl⟩ := Option.map_eq_some_iff.1 h
    exact absurd (Members.hasTable_of_within Members.hasTable_of_define hroot) hflat
  | member path last item =>
    obtain ⟨root, hroot, rfl⟩ := Option.map_eq_some_iff.1 h
    refine ⟨hpath, ?_⟩
    rw [hpath] at hroot
    cases path with
    | nil =>
      rw [State.add, hpath]
      exact Option.map_eq_some_iff.2 ⟨root, hroot, rfl⟩
    | cons next path => exact absurd (Members.hasTable_of_assign_cons hroot) hflat

theorem hasTable_lines {reach : Reach} {limit : Nat} {rest : List Char} (hs : s.root.HasTable)
    (h : lines reach limit s cs = some (s', rest)) : s'.root.HasTable := by
  induction limit generalizing s cs with
  | zero => cases h; exact hs
  | succ limit ih =>
    obtain ⟨e, _, -, t, ht, rest', -, h⟩ := lines_succ_eq_some_iff.1 h
    split_ifs at h with hend
    · cases h
      exact hasTable_add hs ht
    · exact ih (hasTable_add hs ht) h

theorem lines_implied_of_flat {limit : Nat} {rest : List Char} (hpath : s.path = [])
    (h : lines .dotted limit s cs = some (s', rest)) (hflat : ¬ s'.root.HasTable) :
    lines .implied limit s cs = some (s', rest) := by
  induction limit generalizing s cs with
  | zero => exact h
  | succ limit ih =>
    obtain ⟨e, behind, he, t, ht, rest', hend, h⟩ := lines_succ_eq_some_iff.1 h
    have htflat : ¬ t.root.HasTable := fun htable => by
      split_ifs at h with hlast
      · cases h
        exact hflat htable
      · exact hflat (hasTable_lines htable h)
    obtain ⟨htpath, ht⟩ := add_implied_of_flat hpath ht htflat
    refine lines_succ_eq_some_iff.2 ⟨e, behind, he, t, ht, rest', hend, ?_⟩
    split_ifs at h ⊢ with hlast
    · exact h
    · exact ih htpath h

/-! ## The mark in front -/

/-- No line begins with the mark of the byte order. -/
theorem entry_mark (cs : List Char) : entry ('\uFEFF' :: cs) = none := by
  rfl

end Reader

theorem withoutMark_eq_of_entry {cs : List Char} {r : Reader.Entry × List Char}
    (h : Reader.entry cs = some r) : withoutMark cs = cs := by
  unfold withoutMark
  split
  · rw [Reader.entry_mark] at h
    cases h
  · rfl

/-- A document of atoms does not depend on which tables dotted keys may add to, nor on how often
the mark in front is passed over. -/
theorem parse_implied_of_flat {text : List Char} {members : List (String × Value)}
    (h : parse .dotted text = some (.table members))
    (hatoms : ∀ member ∈ members, member.2.isAtom = true) :
    parse .implied (withoutMark text) = some (.table members) := by
  obtain ⟨⟨final, rest⟩, hlines, h⟩ := Option.bind_eq_some_iff.1 h
  obtain ⟨e, behind, he, -⟩ := Reader.lines_succ_eq_some_iff.1 hlines
  have hmark : withoutMark (withoutMark text) = withoutMark text := withoutMark_eq_of_entry he
  simp only at h
  split_ifs at h with hrest
  cases h
  have hlines := Reader.lines_implied_of_flat rfl hlines (Members.not_hasTable_of_isAtom hatoms)
  rw [parse, hmark]
  refine Option.bind_eq_some_iff.2 ⟨(final, rest), hlines, ?_⟩
  exact if_pos hrest

end QuerySnippet.Toml
