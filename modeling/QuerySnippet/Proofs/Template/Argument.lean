/-
What one argument does to a rendering.

Take two rows of arguments that differ in one place. If no placeholder asks for that
argument, the renderings are the same. If one does, they are different, however often
the argument stands in the text: texts of different lengths give renderings of
different lengths, and texts of one length stand in the same places of both renderings
(`render_eq_iff_not_uses`).
-/
import Mathlib.Algebra.Order.BigOperators.Group.List
import Mathlib.Algebra.Order.Group.Nat
import QuerySnippet.Proofs.Template.Arity

namespace QuerySnippet.Template

variable {n : Nat}

/-! ## The arguments that a template uses -/

/-- Some placeholder in the text asks for the argument. -/
def Uses (t : Template n) (i : Nat) : Prop :=
  ∃ tokens, Token.Spell tokens t.source.toList ∧ .argument i ∈ Token.meanings tokens

theorem uses_iff {t : Template n} {i : Nat} : t.Uses i ↔ .argument i ∈ t.meanings := by
  constructor
  · rintro ⟨tokens, hs, hmem⟩
    rwa [meanings_of_spell hs]
  · intro hmem
    obtain ⟨tokens, hs⟩ := t.exists_spell
    exact ⟨tokens, hs, meanings_of_spell hs ▸ hmem⟩

theorem not_uses_of_le {t : Template n} {i : Nat} (h : t.referencedArgs ≤ i) : ¬ t.Uses i := by
  intro huses
  have hlt : i < i := referencedArgs_le_iff.1 h i (uses_iff.1 huses)
  omega

theorem uses_of_referencedArgs_eq {t : Template n} {i : Nat} (h : t.referencedArgs = i + 1) :
    t.Uses i := by
  by_contra hnot
  have hwithin : Meaning.Within i t.meanings := by
    intro j hj
    have hlt : j < i + 1 := referencedArgs_le_iff.1 (Nat.le_of_eq h) j hj
    have hne : j ≠ i := by
      rintro rfl
      exact hnot (uses_iff.2 hj)
    omega
  have hle : t.referencedArgs ≤ i := referencedArgs_le_iff.2 hwithin
  omega

/-! ## Two rows of arguments -/

/-- The arguments are different texts in one place and the same in all others. -/
structure DifferAt (i : Fin n) (args args' : Fin n → String) : Prop where
  here : args i ≠ args' i
  elsewhere : ∀ j, j ≠ i → args j = args' j

variable {i : Fin n} {args args' : Fin n → String} {meanings : List Meaning}

theorem DifferAt.symm (h : DifferAt i args args') : DifferAt i args' args :=
  ⟨h.here.symm, fun j hj => (h.elsewhere j hj).symm⟩

theorem Meaning.text_argument (args : Fin n → String) (i : Fin n) :
    (argument i).text args = (args i).toList := by
  simp [text]

/-- Only the argument itself has another text. -/
theorem DifferAt.text_eq (h : DifferAt i args args') {meaning : Meaning}
    (hne : meaning ≠ .argument i) : meaning.text args = meaning.text args' := by
  cases meaning with
  | char c => rfl
  | argument j =>
    by_cases hj : j < n
    · have hji : (⟨j, hj⟩ : Fin n) ≠ i := by
        rintro rfl
        exact hne rfl
      simp only [Meaning.text, dif_pos hj, h.elsewhere _ hji]
    · simp only [Meaning.text, dif_neg hj]

theorem DifferAt.flatMap_text_eq (h : DifferAt i args args')
    (hnot : Meaning.argument i ∉ meanings) :
    meanings.flatMap (·.text args) = meanings.flatMap (·.text args') := by
  refine List.flatMap_congr fun meaning hmem => h.text_eq ?_
  rintro rfl
  exact hnot hmem

/-- A longer argument makes a longer text, wherever it stands. -/
theorem DifferAt.length_flatMap_lt (h : DifferAt i args args')
    (hlt : (args i).length < (args' i).length) (hmem : Meaning.argument i ∈ meanings) :
    (meanings.flatMap (·.text args)).length < (meanings.flatMap (·.text args')).length := by
  rw [List.length_flatMap, List.length_flatMap]
  refine List.sum_lt_sum _ _ (fun meaning _ => ?_) ⟨.argument i, hmem, ?_⟩
  · by_cases hmeaning : meaning = .argument i
    · subst hmeaning
      rw [Meaning.text_argument, Meaning.text_argument]
      exact Nat.le_of_lt hlt
    · rw [h.text_eq hmeaning]
  · rw [Meaning.text_argument, Meaning.text_argument]
    exact hlt

/-- Texts of the same lengths are the same when they are the same one behind the other. -/
theorem eq_of_flatMap_eq {α β : Type} {f g : α → List β} : ∀ {as : List α},
    (∀ a ∈ as, (f a).length = (g a).length) → as.flatMap f = as.flatMap g →
      ∀ a ∈ as, f a = g a
  | [], _, _ => by simp
  | b :: as, hlength, heq => by
    rw [List.flatMap_cons, List.flatMap_cons] at heq
    obtain ⟨hfirst, hrest⟩ := List.append_inj heq (hlength b List.mem_cons_self)
    have htail := eq_of_flatMap_eq (fun a ha => hlength a (List.mem_cons_of_mem b ha)) hrest
    intro a ha
    rcases List.mem_cons.1 ha with rfl | ha
    · exact hfirst
    · exact htail a ha

/-- Another argument of the same length makes another text. -/
theorem DifferAt.flatMap_text_ne_of_length_eq (h : DifferAt i args args')
    (hlength : (args i).length = (args' i).length) (hmem : Meaning.argument i ∈ meanings) :
    meanings.flatMap (·.text args) ≠ meanings.flatMap (·.text args') := by
  intro heq
  have hall : ∀ meaning ∈ meanings,
      (meaning.text args).length = (meaning.text args').length := by
    intro meaning _
    by_cases hmeaning : meaning = .argument i
    · subst hmeaning
      rw [Meaning.text_argument, Meaning.text_argument]
      exact hlength
    · rw [h.text_eq hmeaning]
  have htext := eq_of_flatMap_eq hall heq _ hmem
  rw [Meaning.text_argument, Meaning.text_argument, String.toList_inj] at htext
  exact h.here htext

theorem DifferAt.flatMap_text_ne (h : DifferAt i args args')
    (hmem : Meaning.argument i ∈ meanings) :
    meanings.flatMap (·.text args) ≠ meanings.flatMap (·.text args') := by
  rcases Nat.lt_trichotomy (args i).length (args' i).length with hlt | hlength | hgt
  · intro heq
    have hshort := h.length_flatMap_lt hlt hmem
    rw [heq] at hshort
    omega
  · exact h.flatMap_text_ne_of_length_eq hlength hmem
  · intro heq
    have hshort := h.symm.length_flatMap_lt hgt hmem
    rw [heq] at hshort
    omega

/-- **An argument is either unused or seen.** A change of it alone leaves the rendering as it was
just when no placeholder asks for it. Those from the number of arguments asked for on are unused,
and the last before is used. -/
theorem render_eq_iff_not_uses (t : Template n) :
    (∀ (i : Fin n) (args args' : Fin n → String), DifferAt i args args' →
      (t.render args = t.render args' ↔ ¬ t.Uses i)) ∧
    (∀ i, t.referencedArgs ≤ i → ¬ t.Uses i) ∧
    ∀ i, t.referencedArgs = i + 1 → t.Uses i := by
  refine ⟨fun i args args' h => ?_, fun i => not_uses_of_le, fun i => uses_of_referencedArgs_eq⟩
  rw [← String.toList_inj, toList_render, toList_render, uses_iff]
  constructor
  · intro heq hmem
    exact h.flatMap_text_ne hmem heq
  · exact h.flatMap_text_eq

/-- An argument that stands on both sides of another, and one that no placeholder asks for. -/
theorem render_eq_iff_not_uses_of_repeated :
    ∃ t : Template 3, parse 3 "\x7b1\x7d\x7b0\x7d\x7b1\x7d" = .ok t ∧
      t.render (fun i => if i = 1 then "a" else "ba") ≠
        t.render (fun i => if i = 1 then "ab" else "ba") ∧
      t.render (fun i => if i = 2 then "a" else "ba") =
        t.render (fun i => if i = 2 then "ab" else "ba") := by
  have hspell : Token.Spell [.indexed ['1'], .indexed ['0'], .indexed ['1']]
      "\x7b1\x7d\x7b0\x7d\x7b1\x7d".toList := Token.spell_of_read (by decide +kernel)
  obtain ⟨t, ht⟩ := exists_of_spell (n := 3) hspell
    (Meaning.arity_le_iff.1 (show Meaning.arity _ ≤ 3 by decide))
  rw [← ht] at hspell ⊢
  have hdiffer : ∀ i : Fin 3, DifferAt i (fun j => if j = i then "a" else "ba")
      (fun j => if j = i then "ab" else "ba") := fun i => ⟨by simp, fun j hj => by simp [hj]⟩
  obtain ⟨hiff, hunused, -⟩ := render_eq_iff_not_uses t
  have huses : t.Uses 1 := ⟨_, hspell, by decide⟩
  have hcount : t.referencedArgs ≤ 2 := by
    rw [referencedArgs_of_spell hspell]
    decide
  refine ⟨t, t.parse_source, fun heq => ?_, ?_⟩
  · exact (hiff 1 _ _ (hdiffer 1)).1 heq huses
  · exact (hiff 2 _ _ (hdiffer 2)).2 (hunused 2 hcount)

end QuerySnippet.Template
