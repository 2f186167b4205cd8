/-
Clause lists can be taken apart again.

A text is split where a delimiter is found, from left to right, and the next one is looked
for behind it (`Clause.split`). The delimiter may have many characters, so it can begin
inside a clause and end in the delimiter written behind it, or overlap itself. A clause
list escapes all of that just when the delimiter behind each clause but the last is the
first from there on and none stands in the last (`Clause.Separable`): splitting gives such
rows only, and of every text the one that makes it (`Clause.split_eq_iff`). So the clauses
come back from their join, the empty ones with them (`split_joinClauses_iff`).
-/
import Mathlib.Data.List.Infix
import QuerySnippet.Proofs.Clause

namespace QuerySnippet

namespace Clause

variable {delimiter s : List Char} {items : List (List Char)}

/-- The texts between the delimiters. A delimiter is looked for from left to right, and the next
one behind it. -/
def split (delimiter : List Char) : List Char → List (List Char)
  | [] => [[]]
  | c :: cs =>
    if delimiter <+: c :: cs then [] :: split delimiter (cs.drop (delimiter.length - 1))
    else (split delimiter cs).modifyHead (c :: ·)
termination_by cs => cs.length
decreasing_by
  · simp only [List.length_drop, List.length_cons]
    omega
  · simp

/-- How many delimiters are found from left to right, the next one behind the last. -/
def found (delimiter : List Char) : List Char → Nat
  | [] => 0
  | c :: cs =>
    if delimiter <+: c :: cs then found delimiter (cs.drop (delimiter.length - 1)) + 1
    else found delimiter cs
termination_by cs => cs.length
decreasing_by
  · simp only [List.length_drop, List.length_cons]
    omega
  · simp

/-- The delimiter behind the item is the first that stands in the two together. -/
def EndsFirst (delimiter item : List Char) : Prop :=
  ∀ before after, item ++ delimiter = before ++ delimiter ++ after → after = []

/-- The delimiter behind each item but the last is the first from there on, and none stands in the
last. -/
structure Separable (delimiter : List Char) (items : List (List Char)) : Prop where
  ne_nil : items ≠ []
  endsFirst : ∀ item ∈ items.dropLast, EndsFirst delimiter item
  last : ∀ item ∈ items.getLast?, ¬ delimiter <:+: item

theorem separable_singleton_iff {item : List Char} :
    Separable delimiter [item] ↔ ¬ delimiter <:+: item :=
  ⟨fun h => h.last item rfl, fun h => ⟨by simp, by simp, by simpa using h⟩⟩

theorem separable_cons_iff {item : List Char} (h : items ≠ []) :
    Separable delimiter (item :: items) ↔ EndsFirst delimiter item ∧ Separable delimiter items := by
  obtain ⟨next, items, rfl⟩ := List.exists_cons_of_ne_nil h
  constructor
  · rintro ⟨-, hends, hlast⟩
    exact ⟨hends item (by simp), by simp, fun i hi => hends i (by simp_all), by simpa using hlast⟩
  · rintro ⟨hitem, -, hends, hlast⟩
    refine ⟨by simp, fun i hi => ?_, by simpa using hlast⟩
    rw [List.dropLast_cons_of_ne_nil h, List.mem_cons] at hi
    rcases hi with rfl | hi
    · exact hitem
    · exact hends i hi

theorem endsFirst_nil (delimiter : List Char) : EndsFirst delimiter [] := by
  intro before after h
  have hlength := congrArg List.length h
  simp only [List.length_append, List.length_nil] at hlength
  exact List.eq_nil_of_length_eq_zero (by omega)

theorem endsFirst_cons_iff {c : Char} {item : List Char} :
    EndsFirst delimiter (c :: item) ↔
      ¬ delimiter <+: c :: item ++ delimiter ∧ EndsFirst delimiter item := by
  constructor
  · intro h
    refine ⟨fun ⟨after, hafter⟩ => ?_, fun before after heq => h (c :: before) after (by simp [heq])⟩
    have hnil : after = [] := h [] after (by simpa using hafter.symm)
    have hlength := congrArg List.length hafter
    simp only [hnil, List.length_append, List.length_cons, List.length_nil] at hlength
    omega
  · rintro ⟨hhead, hitem⟩ before after heq
    cases before with
    | nil => exact absurd ⟨after, by simpa using heq.symm⟩ hhead
    | cons b before =>
      obtain ⟨-, hrest⟩ := List.cons.inj heq
      exact hitem before after hrest

/-! ## Splitting goes item by item -/

theorem split_delimiter_append (hd : delimiter ≠ []) (rest : List Char) :
    split delimiter (delimiter ++ rest) = [] :: split delimiter rest := by
  obtain ⟨c, cs, rfl⟩ := List.exists_cons_of_ne_nil hd
  have hhead : c :: cs <+: c :: (cs ++ rest) := List.prefix_append (c :: cs) rest
  rw [List.cons_append, split, if_pos hhead]
  simp

/-- Up to the first delimiter a text is one item. -/
theorem split_append (hd : delimiter ≠ []) (rest : List Char) : ∀ {item : List Char},
    EndsFirst delimiter item →
      split delimiter (item ++ delimiter ++ rest) = item :: split delimiter rest
  | [], _ => split_delimiter_append hd rest
  | c :: item, h => by
    obtain ⟨hhead, hitem⟩ := endsFirst_cons_iff.1 h
    -- one that began here would end before `rest`, inside the item and its delimiter
    have hnot : ¬ delimiter <+: c :: item ++ delimiter ++ rest := fun hlong =>
      hhead (List.prefix_of_prefix_length_le hlong (List.prefix_append ..) (by simp; omega))
    have hrest := split_append hd rest hitem
    rw [List.cons_append, List.cons_append] at hnot ⊢
    rw [split, if_neg hnot, hrest]
    rfl

/-- A text without delimiters is one item. -/
theorem split_of_not_infix : ∀ {s : List Char}, ¬ delimiter <:+: s → split delimiter s = [s]
  | [], _ => by rw [split]
  | c :: cs, h => by
    rw [List.infix_cons_iff, not_or] at h
    rw [split, if_neg h.1, split_of_not_infix h.2]
    rfl

theorem split_intercalate (hd : delimiter ≠ []) : ∀ {items : List (List Char)},
    Separable delimiter items → split delimiter (delimiter.intercalate items) = items
  | [], h => absurd rfl h.ne_nil
  | [item], h => by
    rw [List.intercalate_singleton, split_of_not_infix (separable_singleton_iff.1 h)]
  | item :: next :: items, h => by
    obtain ⟨hitem, hrest⟩ := (separable_cons_iff (List.cons_ne_nil next items)).1 h
    rw [List.intercalate_cons_cons, split_append hd _ hitem, split_intercalate hd hrest]

/-! ## What splitting gives can be joined again -/

theorem split_ne_nil (delimiter s : List Char) : split delimiter s ≠ [] := by
  fun_induction split delimiter s with
  | case1 => simp
  | case2 => simp
  | case3 c cs _ ih => simpa [List.modifyHead_eq_nil_iff] using ih

theorem append_drop_of_prefix {c : Char} {cs : List Char} (hd : delimiter ≠ [])
    (h : delimiter <+: c :: cs) : delimiter ++ cs.drop (delimiter.length - 1) = c :: cs := by
  obtain ⟨rest, hrest⟩ := h
  obtain ⟨d, ds, rfl⟩ := List.exists_cons_of_ne_nil hd
  obtain ⟨rfl, rfl⟩ := List.cons.inj hrest
  simp

theorem intercalate_split (hd : delimiter ≠ []) (s : List Char) :
    delimiter.intercalate (split delimiter s) = s := by
  fun_induction split delimiter s with
  | case1 => simp
  | case2 c cs hhead ih =>
    have hne := split_ne_nil delimiter (cs.drop (delimiter.length - 1))
    rw [List.intercalate_cons_of_ne_nil hne, ih, List.nil_append, append_drop_of_prefix hd hhead]
  | case3 c cs _ ih =>
    obtain ⟨item, items, hsplit⟩ := List.exists_cons_of_ne_nil (split_ne_nil delimiter cs)
    rw [hsplit] at ih ⊢
    rw [List.modifyHead_cons, List.intercalate_cons_cons_left, ih]

theorem separable_split (hd : delimiter ≠ []) (s : List Char) :
    Separable delimiter (split delimiter s) := by
  fun_induction split delimiter s with
  | case1 => exact separable_singleton_iff.2 (by simpa using hd)
  | case2 c cs _ ih =>
    have hne := split_ne_nil delimiter (cs.drop (delimiter.length - 1))
    exact (separable_cons_iff hne).2 ⟨endsFirst_nil delimiter, ih⟩
  | case3 c cs hhead ih =>
    have hjoin := intercalate_split hd cs
    obtain ⟨item, items, hsplit⟩ := List.exists_cons_of_ne_nil (split_ne_nil delimiter cs)
    rw [hsplit] at ih hjoin ⊢
    rw [List.modifyHead_cons]
    by_cases hitems : items = []
    · subst hitems
      obtain rfl : item = cs := by simpa using hjoin
      refine separable_singleton_iff.2 fun hinfix => ?_
      rcases List.infix_cons_iff.1 hinfix with hhere | hlater
      · exact hhead hhere
      · exact separable_singleton_iff.1 ih hlater
    · -- the first item and the delimiter behind it begin the text, and no delimiter does
      obtain ⟨hitem, hrest⟩ := (separable_cons_iff hitems).1 ih
      refine (separable_cons_iff hitems).2 ⟨endsFirst_cons_iff.2 ⟨fun hhere => ?_, hitem⟩, hrest⟩
      rw [List.intercalate_cons_of_ne_nil hitems] at hjoin
      refine hhead (hhere.trans ⟨delimiter.intercalate items, ?_⟩)
      rw [List.cons_append, List.cons_append, hjoin]

/-- Splitting gives the one row of items that can be taken apart and makes the text. -/
theorem split_eq_iff (hd : delimiter ≠ []) :
    split delimiter s = items ↔ Separable delimiter items ∧ delimiter.intercalate items = s := by
  constructor
  · rintro rfl
    exact ⟨separable_split hd s, intercalate_split hd s⟩
  · rintro ⟨hitems, rfl⟩
    exact split_intercalate hd hitems

theorem length_split (delimiter s : List Char) :
    (split delimiter s).length = found delimiter s + 1 := by
  fun_induction split delimiter s with
  | case1 => rw [found]; rfl
  | case2 c cs hhead ih => rw [found, if_pos hhead, List.length_cons, ih]
  | case3 c cs hhead ih => rw [found, if_neg hhead, List.length_modifyHead, ih]

end Clause

open Clause

/-- **A clause list can be taken apart again**: splitting at the delimiter gives the clauses back
just when the delimiter behind each of them is the first from there on. -/
theorem split_joinClauses_iff (delimiter : String) (hd : delimiter ≠ "") (clauses : List String) :
    (split delimiter.toList (joinClauses delimiter clauses).toList = clauses.map String.toList ↔
      Separable delimiter.toList (clauses.map String.toList)) ∧
    (Separable delimiter.toList (clauses.map String.toList) →
      found delimiter.toList (joinClauses delimiter clauses).toList = clauses.length - 1 ∧
      ∀ clauses', Separable delimiter.toList (clauses'.map String.toList) →
        joinClauses delimiter clauses = joinClauses delimiter clauses' → clauses = clauses') := by
  have hne : delimiter.toList ≠ [] := by simpa using hd
  have hsplit : ∀ {clauses : List String}, Separable delimiter.toList (clauses.map String.toList) →
      split delimiter.toList (joinClauses delimiter clauses).toList = clauses.map String.toList := by
    intro clauses h
    rw [toList_joinClauses, split_intercalate hne h]
  refine ⟨⟨fun h => ?_, hsplit⟩, fun h => ⟨?_, fun clauses' h' hjoin => ?_⟩⟩
  · exact ((split_eq_iff hne).1 h).1
  · have hlength := length_split delimiter.toList (joinClauses delimiter clauses).toList
    rw [hsplit h, List.length_map] at hlength
    omega
  · have hsame := (hsplit h).symm.trans (hjoin ▸ hsplit h')
    exact (List.map_inj_right fun _ _ => String.toList_inj.1).1 hsame

/-- Clauses that look like a part of the delimiter, and one that makes a delimiter with it. -/
theorem split_joinClauses_iff_of_overlap :
    let quoted := ["a\"", "", ",\"b"]
    split "\",\"".toList (joinClauses "\",\"" quoted).toList = quoted.map String.toList ∧
    found "\",\"".toList (joinClauses "\",\"" quoted).toList = 2 ∧
    split " and ".toList (joinClauses " and " ["x and", "y"]).toList ≠
      ["x and", "y"].map String.toList := by
  intro quoted
  have hquoted : Separable "\",\"".toList (quoted.map String.toList) := by
    simp [quoted, separable_cons_iff, separable_singleton_iff, endsFirst_cons_iff, endsFirst_nil,
      List.infix_cons_iff]
  have hx : ¬ EndsFirst " and ".toList "x and".toList := by
    simp [endsFirst_cons_iff]
  obtain ⟨hiff, hrest⟩ := split_joinClauses_iff "\",\"" (by decide) quoted
  refine ⟨hiff.2 hquoted, (hrest hquoted).1, fun h => hx ?_⟩
  have hitems := (split_joinClauses_iff " and " (by decide) ["x and", "y"]).1.1 h
  exact hitems.endsFirst _ (by simp)

end QuerySnippet
