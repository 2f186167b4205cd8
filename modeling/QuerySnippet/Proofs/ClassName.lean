/-
The class name of a type in collections.

The class name takes one collection off the text of a type. The parentheses of the
others only separate words, so the closing ones do not count. The openings count by
where the last dot stands: a name with a dot leaves them all before it, and a name
without one puts the word of every opening that is left in front
(`className_of_layers`).
-/
import Mathlib.Data.List.TakeWhile
import QuerySnippet.Proofs.Edm.Layers
import QuerySnippet.Proofs.Text.Pascal

namespace QuerySnippet

/-! ## The part of a name that makes the class name -/

theorem unwrapName_collection (inner : List Char) :
    unwrapName (collectionOpening ++ inner ++ [')']) = inner := by
  have hopening : collectionOpening.isPrefixOf (collectionOpening ++ (inner ++ [')'])) = true := by
    rw [List.isPrefixOf_iff_prefix]
    exact List.prefix_append _ _
  simp [unwrapName, hopening]

theorem unwrapName_wrapped_succ (count : Nat) (name : List Char) :
    unwrapName (wrapped (count + 1) name) = wrapped count name := by
  rw [wrapped_succ, unwrapName_collection]

theorem unwrapName_of_not_written {name : List Char} (h : ¬ WrittenAsCollection name) :
    unwrapName name = name := by
  by_cases hopening : collectionOpening.isPrefixOf name = true
  · obtain ⟨rest, rfl⟩ := List.isPrefixOf_iff_prefix.1 hopening
    have hlast : rest.getLast? ≠ some ')' := by
      intro hlast
      obtain ⟨inner, rfl⟩ := List.getLast?_eq_some_iff.1 hlast
      exact h ⟨inner, (List.append_assoc ..).symm⟩
    simp [unwrapName, hlast]
  · rw [unwrapName, if_neg hopening]

theorem unwrapName_of_notMem {name : List Char} (h : '(' ∉ name) : unwrapName name = name :=
  unwrapName_of_not_written (not_writtenAsCollection h)

/-- Nothing before a dot is in the last part. -/
theorem lastDotted_append_of_mem {s : List Char} (before : List Char) (h : '.' ∈ s) :
    lastDotted (before ++ s) = lastDotted s := by
  have hstop : (s.reverse.takeWhile (· != '.')).length ≠ s.reverse.length := by
    intro hlength
    have hall : s.reverse.takeWhile (· != '.') = s.reverse :=
      (List.takeWhile_prefix _).eq_of_length hlength
    have hdot := List.takeWhile_eq_self_iff.1 hall '.' (List.mem_reverse.2 h)
    simp at hdot
  rw [lastDotted, lastDotted, List.reverse_append, List.takeWhile_append, if_neg hstop]

theorem lastDotted_append_of_notMem (s : List Char) {after : List Char} (h : '.' ∉ after) :
    lastDotted (s ++ after) = lastDotted s ++ after := by
  have hafter : ∀ c ∈ after.reverse, (c != '.') = true := by
    intro c hc
    have hne : c ≠ '.' := by
      rintro rfl
      exact h (List.mem_reverse.1 hc)
    simpa using hne
  rw [lastDotted, lastDotted, List.reverse_append, List.takeWhile_append_of_pos hafter,
    List.reverse_append, List.reverse_reverse]

theorem lastDotted_of_notMem {s : List Char} (h : '.' ∉ s) : lastDotted s = s :=
  lastDotted_append_of_notMem [] h

/-! ## Class names -/

/-- The class name of an opening. -/
def collectionWord : List Char := "Collection".toList

theorem pascalCase_replicate_opening_append (count : Nat) (s : List Char) :
    Text.pascalCase ((List.replicate count collectionOpening).flatten ++ s) =
      (List.replicate count collectionWord).flatten ++ Text.pascalCase s := by
  induction count with
  | zero => simp
  | succ count ih =>
    have hopening : collectionOpening = collectionWord ++ ['('] := by decide +kernel
    have hword : Text.pascalCase collectionWord = collectionWord := by decide +kernel
    have hseparator : Text.isAlphanumeric '(' = false := by decide +kernel
    rw [List.replicate_succ, List.replicate_succ, List.flatten_cons, List.flatten_cons,
      List.append_assoc, hopening, List.append_assoc, List.singleton_append,
      Text.pascalCase_append_cons hseparator, hword, ← hopening, ih, List.append_assoc]

theorem pascalCase_append_replicate_closing (s : List Char) (count : Nat) :
    Text.pascalCase (s ++ List.replicate count ')') = Text.pascalCase s := by
  refine Text.pascalCase_append_separators s fun c hc => ?_
  rw [List.eq_of_mem_replicate hc]
  decide +kernel

/-- The class name of what is left of a name in collections. -/
theorem pascalCase_lastDotted_wrapped (count : Nat) (name : List Char) :
    Text.pascalCase (lastDotted (wrapped count name)) =
      (if '.' ∈ name then [] else (List.replicate count collectionWord).flatten) ++
        Text.pascalCase (lastDotted name) := by
  have hclosing : '.' ∉ List.replicate count ')' := by
    intro h
    exact absurd (List.eq_of_mem_replicate h) (by decide)
  rw [wrapped, lastDotted_append_of_notMem _ hclosing, pascalCase_append_replicate_closing]
  by_cases hdot : '.' ∈ name
  · rw [lastDotted_append_of_mem _ hdot, if_pos hdot, List.nil_append]
  · have hopening : '.' ∉ (List.replicate count collectionOpening).flatten := by
      intro h
      obtain ⟨opening, hmem, hopening⟩ := List.mem_flatten.1 h
      rw [List.eq_of_mem_replicate hmem] at hopening
      exact absurd hopening (by decide)
    have hnone : '.' ∉ (List.replicate count collectionOpening).flatten ++ name := by
      rw [List.mem_append]
      rintro (h | h)
      · exact hopening h
      · exact hdot h
    rw [lastDotted_of_notMem hnone, lastDotted_of_notMem hdot, if_neg hdot,
      pascalCase_replicate_opening_append]

/-- The class name of the innermost type with a number of words in front. -/
theorem toList_className_display (t : EdmType)
    (h : ∀ c ∈ t.innermost.display.toList, c.isAlphanum = true ∨ c = '.') :
    (className t.display).toList =
      (if '.' ∈ t.innermost.display.toList then []
        else (List.replicate (t.layers - 1) collectionWord).flatten) ++
        (className t.innermost.display).toList := by
  have hplain : '(' ∉ t.innermost.display.toList := by
    intro hmem
    rcases h '(' hmem with hletter | hdot
    · exact absurd hletter (by decide)
    · exact absurd hdot (by decide)
  have hinnermost : (className t.innermost.display).toList =
      Text.pascalCase (lastDotted t.innermost.display.toList) := by
    rw [className, String.toList_ofList, unwrapName_of_notMem hplain]
  rw [hinnermost, className, String.toList_ofList, t.toList_display]
  cases t.layers with
  | zero => simp [wrapped_zero, unwrapName_of_notMem hplain]
  | succ count => rw [unwrapName_wrapped_succ, pascalCase_lastDotted_wrapped, Nat.add_sub_cancel]

theorem length_replicate_collectionWord (count : Nat) :
    (List.replicate count collectionWord).flatten.length = count * 10 := by
  have hword : collectionWord.length = 10 := by decide +kernel
  rw [List.length_flatten, List.map_replicate, List.sum_replicate_nat, hword]

/-- **Collections around a type do not count for its class name when the name has a dot.** When the
name has none, one collection does not count, and every other puts the word `Collection` in
front. -/
theorem className_of_layers (t : EdmType)
    (h : ∀ c ∈ t.innermost.display.toList, c.isAlphanum = true ∨ c = '.') :
    (className t.collection.display = className t.display ↔
      '.' ∈ t.innermost.display.toList ∨ t.element? = none) ∧
    ('.' ∈ t.innermost.display.toList → className t.display = className t.innermost.display) ∧
    ('.' ∉ t.innermost.display.toList → className t.display =
      String.join (List.replicate (t.layers - 1) "Collection") ++
        className t.innermost.display) := by
  have ht := toList_className_display t h
  refine ⟨?_, fun hdot => ?_, fun hdot => ?_⟩
  · have hcollection := toList_className_display t.collection h
    rw [EdmType.innermost, EdmType.layers, Nat.add_sub_cancel] at hcollection
    rw [← String.toList_inj, hcollection, ht, List.append_cancel_right_eq,
      ← EdmType.layers_eq_zero_iff]
    by_cases hdot : '.' ∈ t.innermost.display.toList
    · simp [hdot]
    · simp only [hdot, if_false, false_or]
      constructor
      · intro heq
        have hlength := congrArg List.length heq
        rw [length_replicate_collectionWord, length_replicate_collectionWord] at hlength
        omega
      · intro hzero
        rw [hzero]
  · rw [← String.toList_inj, ht, if_pos hdot, List.nil_append]
  · rw [← String.toList_inj, ht, if_neg hdot, String.toList_append, toList_join_replicate]
    rfl

/-- Three collections, around a name with dots and around one without. -/
theorem className_of_layers_of_three :
    className "Collection(Collection(Collection(microsoft.graph.user)))" = "User" ∧
      className "Collection(Collection(Collection(user)))" = "CollectionCollectionUser" := by
  let thrice (name : String) : EdmType := .collection (.collection (.collection (.scalar name)))
  constructor
  · have hplain : ∀ c ∈ "microsoft.graph.user".toList, c.isAlphanum = true ∨ c = '.' := by simp
    have hname := (className_of_layers (thrice "microsoft.graph.user") hplain).2.1 (by decide)
    have huser : className "microsoft.graph.user" = "User" := by decide +kernel
    exact hname.trans huser
  · have hplain : ∀ c ∈ "user".toList, c.isAlphanum = true ∨ c = '.' := by simp
    have hname := (className_of_layers (thrice "user") hplain).2.2 (by decide)
    have huser : className "user" = "User" := by decide +kernel
    exact hname.trans (congrArg ("CollectionCollection" ++ ·) huser)

/-- A second collection around a name without a dot counts. -/
theorem className_of_bare_name_in_two :
    let once : EdmType := .collection (.scalar "user")
    (∀ c ∈ once.innermost.display.toList, c.isAlphanum = true ∨ c = '.') ∧
      className once.display = "User" ∧ className once.collection.display = "CollectionUser" ∧
      className once.collection.display ≠ className once.display := by
  intro once
  have hplain : ∀ c ∈ "user".toList, c.isAlphanum = true ∨ c = '.' := by simp
  have honce : className once.display = "User" := by decide +kernel
  have htwice : className once.collection.display = "CollectionUser" := by decide +kernel
  refine ⟨hplain, honce, htwice, ?_⟩
  rw [honce, htwice]
  decide

end QuerySnippet
