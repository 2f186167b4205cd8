/-
Pascal case of ASCII text.

In ASCII every character has one upper case and one lower case, which are ASCII again, and
the letters and numbers are `A` to `Z`, `a` to `z` and `0` to `9`. So Pascal case changes
nothing but the case of the letters and numbers of a text (`map_toLower_pascalCase`), and
begins with no lower case letter (`isLower_head?_pascalCase`).
-/
import QuerySnippet.Proofs.Text.Fold
import QuerySnippet.Proofs.Text.Pascal

namespace QuerySnippet.Text

/-- All characters are ASCII. -/
def Ascii (s : List Char) : Prop := ∀ c ∈ s, c.toNat < 128

instance (s : List Char) : Decidable (Ascii s) :=
  decidable_of_iff (s.all fun c => c.toNat < 128) (by simp [Ascii])

/-! ## Characters -/

section Characters

variable {c : Char}

theorem toLower_toLower : c.toLower.toLower = c.toLower := by
  unfold Char.toLower
  grind

theorem isAlphanum_toLower : c.toLower.isAlphanum = c.isAlphanum := by
  unfold Char.isAlphanum Char.isAlpha Char.isUpper Char.isLower Char.isDigit Char.toLower
  grind

theorem isLower_toUpper : c.toUpper.isLower = false := by
  unfold Char.isLower Char.toUpper
  grind

theorem toLower_toUpper_of_ascii (h : c.toNat < 128) : c.toUpper.toLower = c.toLower :=
  forall_ascii (p := fun c => c.toUpper.toLower = c.toLower) (by decide) h

/-- In ASCII the tables of Unicode say what the functions for ASCII do. -/
theorem tables_of_ascii (h : c.toNat < 128) :
    upper c = [c.toUpper] ∧ isAlphanumeric c = c.isAlphanum :=
  forall_ascii (p := fun c => upper c = [c.toUpper] ∧ isAlphanumeric c = c.isAlphanum)
    (by decide +kernel) h

end Characters

/-! ## Words -/

theorem lowerTail_of_ascii : ∀ {rest : List Char}, Ascii rest →
    lowerTail rest = rest.map Char.toLower
  | [], _ => rfl
  | [c], h => by
    have hc : c.toNat < 128 := h c List.mem_cons_self
    have hsigma : c ≠ 'Σ' := by
      rintro rfl
      exact absurd hc (by decide)
    rw [lowerTail, if_neg hsigma, lower_of_ascii hc, List.map_singleton]
  | c :: d :: rest, h => by
    have hrest : Ascii (d :: rest) := fun e he => h e (List.mem_cons_of_mem c he)
    have ih := lowerTail_of_ascii hrest
    rw [lowerTail, lower_of_ascii (h c List.mem_cons_self), ih, List.map_cons]
    · rfl
    · exact List.cons_ne_nil d rest

theorem capitalize_of_ascii {c : Char} {rest : List Char} (h : Ascii (c :: rest)) :
    capitalize (c :: rest) = c.toUpper :: rest.map Char.toLower := by
  have hfirst : upper c = [c.toUpper] := (tables_of_ascii (h c List.mem_cons_self)).1
  have hrest : Ascii rest := fun d hd => h d (List.mem_cons_of_mem c hd)
  rw [capitalize, hfirst, lowerTail_of_ascii hrest, List.singleton_append]

/-- A capital first letter is the only change to a word. -/
theorem map_toLower_capitalize {word : List Char} (h : Ascii word) :
    (capitalize word).map Char.toLower = word.map Char.toLower := by
  cases word with
  | nil => rfl
  | cons c rest =>
    have hrest : rest.map (Char.toLower ∘ Char.toLower) = rest.map Char.toLower :=
      List.map_congr_left fun _ _ => toLower_toLower
    rw [capitalize_of_ascii h, List.map_cons, List.map_cons, List.map_map,
      toLower_toUpper_of_ascii (h c List.mem_cons_self), hrest]

/-! ## Texts -/

variable {s : List Char}

theorem ascii_of_mem_words (h : Ascii s) {word : List Char} (hword : word ∈ words s) :
    Ascii word := by
  intro c hc
  have hmem : c ∈ (words s).flatten := List.mem_flatten_of_mem hword hc
  rw [flatten_words] at hmem
  exact h c (List.mem_of_mem_filter hmem)

/-- Up to case, Pascal case leaves the letters and numbers of a text, in order, and nothing else. -/
theorem map_toLower_pascalCase (h : Ascii s) :
    (pascalCase s).map Char.toLower = (s.filter Char.isAlphanum).map Char.toLower := by
  have hfilter : s.filter isAlphanumeric = s.filter Char.isAlphanum :=
    List.filter_congr fun c hc => (tables_of_ascii (h c hc)).2
  calc (pascalCase s).map Char.toLower
    _ = (words s).flatMap fun word => (capitalize word).map Char.toLower := by
      rw [pascalCase, List.map_flatMap]
    _ = (words s).flatMap fun word => word.map Char.toLower :=
      List.flatMap_congr fun _ hword => map_toLower_capitalize (ascii_of_mem_words h hword)
    _ = (words s).flatten.map Char.toLower := by rw [List.map_flatten, List.flatMap_def]
    _ = (s.filter Char.isAlphanum).map Char.toLower := by rw [flatten_words, hfilter]

theorem isAlphanum_of_mem_pascalCase (h : Ascii s) {c : Char} (hc : c ∈ pascalCase s) :
    c.isAlphanum = true := by
  have hlower : c.toLower ∈ (s.filter Char.isAlphanum).map Char.toLower :=
    map_toLower_pascalCase h ▸ List.mem_map_of_mem hc
  obtain ⟨d, hd, hdc⟩ := List.mem_map.1 hlower
  rw [← isAlphanum_toLower, ← hdc, isAlphanum_toLower]
  exact List.of_mem_filter hd

theorem isLower_head?_flatMap_capitalize : ∀ {ws : List (List Char)}, (∀ word ∈ ws, Ascii word) →
    ∀ c ∈ (ws.flatMap capitalize).head?, c.isLower = false
  | [], _, c, hc => by cases hc
  | [] :: ws, h, c, hc =>
    isLower_head?_flatMap_capitalize (fun word hmem => h word (List.mem_cons_of_mem [] hmem)) c hc
  | (d :: rest) :: ws, h, c, hc => by
    have hword : Ascii (d :: rest) := h _ List.mem_cons_self
    rw [List.flatMap_cons, capitalize_of_ascii hword] at hc
    obtain rfl : d.toUpper = c := Option.some.inj hc
    exact isLower_toUpper

/-- Pascal case does not begin with a lower case letter. -/
theorem isLower_head?_pascalCase (h : Ascii s) : ∀ c ∈ (pascalCase s).head?, c.isLower = false :=
  isLower_head?_flatMap_capitalize fun _ => ascii_of_mem_words h

end QuerySnippet.Text
