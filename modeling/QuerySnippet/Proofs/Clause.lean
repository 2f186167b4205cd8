/-
Clause lists are their clauses with the delimiter between neighbours.

What is taken off the end is the delimiter written last, so no text of a
clause is ever lost, whatever the clauses hold: every clause stands whole in
the list, between the clauses before it, each with the delimiter behind, and
those after it, each with the delimiter in front (`joinClauses_separates`).
-/
import Mathlib.Data.List.Basic
import QuerySnippet.Clause

namespace QuerySnippet

theorem dropTrailing_append (delimiter s : List Char) :
    dropTrailing delimiter (s ++ delimiter) = s := by
  have hs : delimiter.isSuffixOf (s ++ delimiter) = true :=
    List.isSuffixOf_iff_suffix.2 (List.suffix_append s delimiter)
  rw [dropTrailing, if_pos hs, List.length_append, Nat.add_sub_cancel, List.take_left]

theorem flatMap_append_delimiter (delimiter : List Char) : ∀ {clauses : List (List Char)},
    clauses ≠ [] → clauses.flatMap (· ++ delimiter) = delimiter.intercalate clauses ++ delimiter
  | [], h => absurd rfl h
  | [clause], _ => by simp
  | clause :: next :: clauses, _ => by
    rw [List.flatMap_cons, flatMap_append_delimiter delimiter (List.cons_ne_nil next clauses),
      List.intercalate_cons_cons]
    simp only [List.append_assoc]

/-- The clauses are joined with one delimiter between neighbours and none at the end. -/
theorem joinClauses_eq_intercalate (delimiter : String) (clauses : List String) :
    joinClauses delimiter clauses = delimiter.intercalate clauses := by
  rw [← String.toList_inj, joinClauses, String.toList_ofList, String.toList_intercalate]
  cases clauses with
  | nil =>
    cases h : delimiter.toList <;> simp [dropTrailing, List.isSuffixOf]
  | cons clause clauses =>
    have hne : (clause :: clauses).map String.toList ≠ [] := by simp
    have hjoin := flatMap_append_delimiter delimiter.toList hne
    rw [List.flatMap_map] at hjoin
    rw [hjoin, dropTrailing_append]

theorem toList_joinClauses (delimiter : String) (clauses : List String) :
    (joinClauses delimiter clauses).toList =
      delimiter.toList.intercalate (clauses.map String.toList) := by
  rw [joinClauses_eq_intercalate, String.toList_intercalate]

/-! ## Every clause in its place -/

theorem join_intersperse (delimiter : String) : ∀ clauses : List String,
    String.join (clauses.intersperse delimiter) = delimiter.intercalate clauses
  | [] => rfl
  | [clause] => by simp
  | clause :: next :: clauses => by
    rw [List.intersperse_cons_cons, String.join_cons, String.join_cons,
      join_intersperse delimiter (next :: clauses), String.intercalate_cons_cons,
      String.append_assoc]

theorem intercalate_cons_eq_join (delimiter clause : String) : ∀ after : List String,
    delimiter.intercalate (clause :: after) = clause ++ String.join (after.map (delimiter ++ ·))
  | [] => by simp
  | next :: after => by
    rw [String.intercalate_cons_cons, intercalate_cons_eq_join delimiter next after, List.map_cons,
      String.join_cons]
    simp only [String.append_assoc]

/-- A clause stands behind those before it and in front of those after it. -/
theorem intercalate_append_cons (delimiter clause : String) (after : List String) :
    ∀ before : List String, delimiter.intercalate (before ++ clause :: after) =
      String.join (before.map (· ++ delimiter)) ++ clause ++
        String.join (after.map (delimiter ++ ·))
  | [] => by simp [intercalate_cons_eq_join]
  | first :: before => by
    have hne : before ++ clause :: after ≠ [] := by simp
    rw [List.cons_append, String.intercalate_cons_of_ne_nil hne,
      intercalate_append_cons delimiter clause after before, List.map_cons, String.join_cons]
    simp only [String.append_assoc]

/-- **A clause list is its clauses in order, the delimiter once between neighbours and nothing at
the end.** Every clause stands whole in its place, and lists that have clauses are joined with one
delimiter between them. -/
theorem joinClauses_separates (delimiter : String) :
    (∀ clauses, joinClauses delimiter clauses = String.join (clauses.intersperse delimiter)) ∧
    (∀ before clause after, joinClauses delimiter (before ++ clause :: after) =
      String.join (before.map (· ++ delimiter)) ++ clause ++
        String.join (after.map (delimiter ++ ·))) ∧
    ∀ before after, before ≠ [] → after ≠ [] → joinClauses delimiter (before ++ after) =
      joinClauses delimiter before ++ delimiter ++ joinClauses delimiter after := by
  simp only [joinClauses_eq_intercalate]
  refine ⟨fun clauses => (join_intersperse delimiter clauses).symm, fun before clause after => ?_,
    fun before after => String.intercalate_append_of_ne_nil⟩
  exact intercalate_append_cons delimiter clause after before

/-- Clauses that end in the delimiter, are the delimiter or are empty. -/
theorem joinClauses_separates_of_delimiters :
    joinClauses "," ["a,", ",", "", ","] = "a,,,,,," ∧
    joinClauses "," (["a,", ","] ++ ["", ","]) =
      joinClauses "," ["a,", ","] ++ "," ++ joinClauses "," ["", ","] := by
  obtain ⟨hall, -, happend⟩ := joinClauses_separates ","
  exact ⟨hall _, happend ["a,", ","] ["", ","] (by simp) (by simp)⟩

end QuerySnippet
