/-
Words in Pascal case.

A character that is neither a letter nor a number separates words and does nothing
else: the text before it and the text behind it are put in Pascal case apart
(`pascalCase_append_cons`). Every other character stands in a word, and the words hold
nothing else (`flatten_words`). No character has an empty upper case, so a text leaves
nothing in Pascal case only when it has no letter and no number (`pascalCase_eq_nil_iff`).
-/
import Mathlib.Data.List.Basic
import QuerySnippet.Text.Pascal

namespace QuerySnippet.Text

/-! ## Separators -/

theorem runs_ne_nil (s : List Char) : runs s ≠ [] := by
  cases s with
  | nil => simp [runs]
  | cons c s =>
    rw [runs]
    split
    · split <;> simp
    · simp

theorem runs_append_cons {c : Char} (hc : isAlphanumeric c = false) (s t : List Char) :
    runs (s ++ c :: t) = runs s ++ runs t := by
  induction s with
  | nil => simp [runs, hc]
  | cons d s ih =>
    by_cases hd : isAlphanumeric d = true
    · obtain ⟨run, others, hruns⟩ := List.exists_cons_of_ne_nil (runs_ne_nil s)
      have happend : runs (s ++ c :: t) = run :: (others ++ runs t) := by
        rw [ih, hruns, List.cons_append]
      simp [runs, hd, hruns, happend]
    · simp [runs, hd, ih]

theorem words_append_cons {c : Char} (hc : isAlphanumeric c = false) (s t : List Char) :
    words (s ++ c :: t) = words s ++ words t := by
  rw [words, runs_append_cons hc, List.flatMap_append, ← words, ← words]

/-- A separator stands between what is put in Pascal case on either side of it. -/
theorem pascalCase_append_cons {c : Char} (hc : isAlphanumeric c = false) (s t : List Char) :
    pascalCase (s ++ c :: t) = pascalCase s ++ pascalCase t := by
  rw [pascalCase, words_append_cons hc, List.flatMap_append, ← pascalCase, ← pascalCase]

/-- Separators at the end do not count. -/
theorem pascalCase_append_separators (s : List Char) : ∀ {t : List Char},
    (∀ c ∈ t, isAlphanumeric c = false) → pascalCase (s ++ t) = pascalCase s
  | [], _ => by rw [List.append_nil]
  | c :: t, h => by
    have hrest : pascalCase ([] ++ t) = pascalCase [] :=
      pascalCase_append_separators [] fun d hd => h d (List.mem_cons_of_mem c hd)
    have hnone : pascalCase t = [] := hrest
    rw [pascalCase_append_cons (h c List.mem_cons_self), hnone, List.append_nil]

/-! ## What words hold -/

theorem flatten_splitCase (word : List Char) (mode : WordCase) (run : List Char) :
    (splitCase word mode run).flatten = word.reverse ++ run := by
  fun_induction splitCase word mode run <;> simp_all

theorem flatten_runs (s : List Char) : (runs s).flatten = s.filter isAlphanumeric := by
  fun_induction runs s <;> simp_all

/-- The words of a text are its letters and numbers, in order. -/
theorem flatten_words (s : List Char) : (words s).flatten = s.filter isAlphanumeric := by
  have hrun : ∀ run, (splitCase [] .fresh run).flatten = run := flatten_splitCase [] .fresh
  rw [words, List.flatMap_def, List.flatten_flatten, List.map_map, ← flatten_runs]
  simp [Function.comp_def, hrun]

theorem upper_ne_nil (c : Char) : upper c ≠ [] := by
  have hrows : ∀ row ∈ upperExpansions, row.2 ≠ [] := by decide
  unfold upper mapCase
  split
  · exact List.cons_ne_nil _ _
  · next ns _ hlookup =>
    obtain ⟨before, after, htable, -⟩ := List.lookup_eq_some_iff.1 hlookup
    have hns : ns ≠ [] := hrows (c.toNat, ns) (by rw [htable]; simp)
    simpa using hns
  · exact List.cons_ne_nil _ _

theorem capitalize_eq_nil_iff {word : List Char} : capitalize word = [] ↔ word = [] := by
  cases word with
  | nil => simp [capitalize]
  | cons c rest => simp [capitalize, upper_ne_nil]

/-- A text leaves nothing in Pascal case when it has neither letter nor number, and only then. -/
theorem pascalCase_eq_nil_iff {s : List Char} :
    pascalCase s = [] ↔ ∀ c ∈ s, isAlphanumeric c = false := by
  calc pascalCase s = []
    _ ↔ ∀ word ∈ words s, word = [] := by
      simp only [pascalCase, List.flatMap_eq_nil_iff, capitalize_eq_nil_iff]
    _ ↔ s.filter isAlphanumeric = [] := by rw [← flatten_words, List.flatten_eq_nil_iff]
    _ ↔ ∀ c ∈ s, isAlphanumeric c = false := by simp

end QuerySnippet.Text
