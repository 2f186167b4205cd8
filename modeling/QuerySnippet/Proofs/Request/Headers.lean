/-
Headers that are collected value by value.

`insertEntry` looks for the first entry of a name: a value goes to the end of
that entry, or into a new entry behind all others when there is none. A run of
insertions keeps the entries what they should be, the pairs inserted so far
grouped by their names (`Groups.insert`), so no value is lost, doubled or
moved, and no entry is ever without values: a section always has something to
show for it.
-/
import Mathlib.Data.List.Induction
import Mathlib.Data.List.Nodup
import QuerySnippet.Proofs.Section

namespace QuerySnippet.Headers

/-! ## One insertion -/

/-- The names of entries, in order. -/
def names (entries : List (String × List String)) : List String := entries.map Prod.fst

theorem insertEntry_of_notMem {name : String} (value : String) :
    ∀ {entries : List (String × List String)}, name ∉ names entries →
      insertEntry name value entries = entries ++ [(name, [value])]
  | [], _ => rfl
  | (other, values) :: entries, h => by
    have hother : other ≠ name := fun he => h (by simp [names, he])
    have hrest : name ∉ names entries := fun hmem => h (List.mem_cons_of_mem _ hmem)
    rw [insertEntry, if_neg hother, insertEntry_of_notMem value hrest, List.cons_append]

theorem insertEntry_append_cons {name : String} (value : String) (values : List String)
    (after : List (String × List String)) :
    ∀ {before : List (String × List String)}, name ∉ names before →
      insertEntry name value (before ++ (name, values) :: after) =
        before ++ (name, values ++ [value]) :: after
  | [], _ => by simp [insertEntry]
  | (other, _) :: before, h => by
    have hother : other ≠ name := fun he => h (by simp [names, he])
    have hrest : name ∉ names before := fun hmem => h (List.mem_cons_of_mem _ hmem)
    rw [List.cons_append, insertEntry, if_neg hother,
      insertEntry_append_cons value values after hrest, List.cons_append]

/-- An entry of a name has a first one. -/
theorem exists_first_entry {name : String} : ∀ {entries : List (String × List String)},
    name ∈ names entries → ∃ before values after,
      entries = before ++ (name, values) :: after ∧ name ∉ names before
  | (other, values) :: entries, h => by
    by_cases hother : other = name
    · exact ⟨[], values, entries, by simp [hother], by simp [names]⟩
    · have hrest : name ∈ names entries := (List.mem_cons.1 h).resolve_left (Ne.symm hother)
      obtain ⟨before, values', after, rfl, hbefore⟩ := exists_first_entry hrest
      refine ⟨(other, values) :: before, values', after, rfl, ?_⟩
      exact List.not_mem_cons_of_ne_of_not_mem (Ne.symm hother) hbefore

/-! ## Pairs grouped by name -/

/-- The values that pairs give to a name, in order. -/
def valuesOf (name : String) (pairs : List (String × String)) : List String :=
  (pairs.filter (·.1 = name)).map Prod.snd

/-- The entries are the pairs grouped by name. -/
structure Groups (pairs : List (String × String)) (entries : List (String × List String)) :
    Prop where
  /-- No name has two entries. -/
  nodup : (names entries).Nodup
  /-- Entries stand in the order in which their names came first. -/
  order : names entries = (pairs.map Prod.fst).eraseDups
  /-- An entry has all values of its name, in order. -/
  values : ∀ entry ∈ entries, entry.2 = valuesOf entry.1 pairs
  /-- An entry has a value. -/
  filled : ∀ entry ∈ entries, entry.2 ≠ []
  /-- There are as many values as pairs. -/
  total : (entries.flatMap Prod.snd).length = pairs.length

theorem valuesOf_append_self (name value : String) (pairs : List (String × String)) :
    valuesOf name (pairs ++ [(name, value)]) = valuesOf name pairs ++ [value] := by
  simp [valuesOf]

theorem valuesOf_append_of_ne {name other : String} (h : other ≠ name) (value : String)
    (pairs : List (String × String)) :
    valuesOf other (pairs ++ [(name, value)]) = valuesOf other pairs := by
  simp [valuesOf, Ne.symm h]

theorem valuesOf_of_notMem {name : String} {pairs : List (String × String)}
    (h : name ∉ pairs.map Prod.fst) : valuesOf name pairs = [] := by
  rw [valuesOf, List.map_eq_nil_iff, List.filter_eq_nil_iff]
  intro pair hmem he
  exact h (List.mem_map.2 ⟨pair, hmem, by simpa using he⟩)

theorem head?_valuesOf (name : String) (pairs : List (String × String)) :
    (valuesOf name pairs).head? = pairs.lookup name := by
  induction pairs with
  | nil => rfl
  | cons pair pairs ih =>
    obtain ⟨other, value⟩ := pair
    by_cases hname : other = name
    · simp [valuesOf, hname]
    · have hne : (name == other) = false := by simpa using Ne.symm hname
      simpa [valuesOf, hname, List.lookup_cons, hne] using ih

theorem eraseDups_append_singleton (name : String) (l : List String) :
    (l ++ [name]).eraseDups = if name ∈ l then l.eraseDups else l.eraseDups ++ [name] := by
  rw [List.eraseDups_append]
  split <;> simp_all [List.removeAll, List.eraseDups_cons]

theorem Groups.nil : Groups [] [] where
  nodup := List.nodup_nil
  order := rfl
  values := by simp
  filled := by simp
  total := rfl

variable {pairs : List (String × String)} {entries : List (String × List String)}

theorem Groups.mem_names_iff (h : Groups pairs entries) {name : String} :
    name ∈ names entries ↔ name ∈ pairs.map Prod.fst := by
  rw [h.order, List.mem_eraseDups]

/-- A value of a name that has no entry yet. -/
theorem Groups.insert_of_notMem (h : Groups pairs entries) {name : String} (value : String)
    (hnew : name ∉ names entries) :
    Groups (pairs ++ [(name, value)]) (entries ++ [(name, [value])]) := by
  have hnone : valuesOf name pairs = [] := valuesOf_of_notMem (mt h.mem_names_iff.2 hnew)
  have hnames : names (entries ++ [(name, [value])]) = names entries ++ [name] := by simp [names]
  constructor
  case nodup =>
    rw [hnames]
    exact List.nodup_append.2 ⟨h.nodup, List.nodup_singleton name, fun other hother _ hmem he =>
      hnew (List.mem_singleton.1 hmem ▸ he ▸ hother)⟩
  case order =>
    rw [hnames, h.order, List.map_append, List.map_singleton, eraseDups_append_singleton,
      if_neg (mt h.mem_names_iff.2 hnew)]
  case values =>
    intro entry hmem
    rcases List.mem_append.1 hmem with hold | hlast
    · have hne : entry.1 ≠ name := fun he => hnew (he ▸ List.mem_map_of_mem hold)
      rw [valuesOf_append_of_ne hne, h.values entry hold]
    · obtain rfl := List.mem_singleton.1 hlast
      simp [valuesOf_append_self, hnone]
  case filled =>
    intro entry hmem
    rcases List.mem_append.1 hmem with hold | hlast
    · exact h.filled entry hold
    · obtain rfl := List.mem_singleton.1 hlast
      simp
  case total => simp [h.total]

theorem ne_of_nodup_names {name : String} {values : List String}
    {before after : List (String × List String)}
    (h : (names (before ++ (name, values) :: after)).Nodup) :
    ∀ entry ∈ before ++ after, entry.1 ≠ name := by
  simp only [names, List.map_append, List.map_cons] at h
  have hnot : name ∉ (before ++ after).map Prod.fst := by
    rw [List.map_append]
    exact (List.nodup_cons.1 (List.nodup_middle.1 h)).1
  exact fun entry hentry he => hnot (List.mem_map.2 ⟨entry, hentry, he⟩)

/-- Another value of a name that has an entry. -/
theorem Groups.insert_of_entry {name : String} {values : List String}
    {before after : List (String × List String)} (value : String)
    (h : Groups pairs (before ++ (name, values) :: after)) :
    Groups (pairs ++ [(name, value)]) (before ++ (name, values ++ [value]) :: after) := by
  have hnames : names (before ++ (name, values ++ [value]) :: after) =
      names (before ++ (name, values) :: after) := by simp [names]
  have hmem : name ∈ pairs.map Prod.fst := h.mem_names_iff.1 (by simp [names])
  have hothers := ne_of_nodup_names h.nodup
  have mem_iff : ∀ {entry : String × List String} {values : List String},
      entry ∈ before ++ (name, values) :: after ↔
        entry = (name, values) ∨ entry ∈ before ++ after :=
    List.perm_middle.mem_iff.trans List.mem_cons
  constructor
  case nodup => rw [hnames]; exact h.nodup
  case order =>
    rw [hnames, h.order, List.map_append, List.map_singleton, eraseDups_append_singleton,
      if_pos hmem]
  case values =>
    intro entry hin
    rcases mem_iff.1 hin with rfl | hother
    · rw [valuesOf_append_self, ← h.values (name, values) (by simp)]
    · rw [valuesOf_append_of_ne (hothers entry hother), h.values entry (mem_iff.2 (.inr hother))]
  case filled =>
    intro entry hin
    rcases mem_iff.1 hin with rfl | hother
    · simp
    · exact h.filled entry (mem_iff.2 (.inr hother))
  case total =>
    have htotal := h.total
    simp only [List.flatMap_append, List.flatMap_cons, List.length_append,
      List.length_singleton] at htotal ⊢
    omega

/-- Entries that are the pairs grouped by name are so after an insertion, too. -/
theorem Groups.insert (h : Groups pairs entries) (name value : String) :
    Groups (pairs ++ [(name, value)]) (insertEntry name value entries) := by
  by_cases hmem : name ∈ names entries
  · obtain ⟨before, values, after, rfl, hbefore⟩ := exists_first_entry hmem
    rw [insertEntry_append_cons value values after hbefore]
    exact h.insert_of_entry value
  · rw [insertEntry_of_notMem value hmem]
    exact h.insert_of_notMem value hmem

/-! ## Runs of insertions -/

/-- Headers that insertions of these pairs make, one after the other. -/
inductive Run : List (String × String) → Headers → Prop
  | empty : Run [] ∅
  | insert {pairs h} (name value : String) : Run pairs h →
      Run (pairs ++ [(name, value)]) (h.insert name value)

theorem Run.groups {h : Headers} (hrun : Run pairs h) : Groups pairs h.entries := by
  induction hrun with
  | empty => exact .nil
  | insert name value _ ih => exact ih.insert name value

theorem ofPairs_append_singleton (pairs : List (String × String)) (name value : String) :
    ofPairs (pairs ++ [(name, value)]) = (ofPairs pairs).insert name value := by
  simp [ofPairs]

theorem run_iff {h : Headers} : Run pairs h ↔ h = ofPairs pairs := by
  constructor
  · intro hrun
    induction hrun with
    | empty => rfl
    | insert name value _ ih => rw [ofPairs_append_singleton, ih]
  · rintro rfl
    induction pairs using List.reverseRecOn with
    | nil => exact .empty
    | append_singleton pairs pair ih =>
      rw [ofPairs_append_singleton]
      exact .insert pair.1 pair.2 ih

theorem Groups.hasValues (h : Groups pairs entries) : Section.HasValues entries :=
  fun entry hmem _ => h.filled entry hmem

/-- **Headers collected value by value are the pairs grouped by name**, however they are collected,
and every table shows them. -/
theorem ofPairs_groups (pairs : List (String × String)) :
    (∀ h, Run pairs h ↔ h = ofPairs pairs) ∧
    Groups pairs (ofPairs pairs).entries ∧
    (∀ name value, ofPairs (pairs ++ [(name, value)]) = (ofPairs pairs).insert name value) ∧
    ∀ (e : Expressions) (r : Request),
      ∃ text, querySection e { r with headers := ofPairs pairs } = .ok text := by
  have hgroups : Groups pairs (ofPairs pairs).entries := (run_iff.2 rfl).groups
  exact ⟨fun h => run_iff, hgroups, ofPairs_append_singleton pairs,
    fun e r => ⟨_, querySection_of_hasValues e hgroups.hasValues⟩⟩

end QuerySnippet.Headers
