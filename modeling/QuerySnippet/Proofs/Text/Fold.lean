/-
Words that are read in any case, with white space around them.

Reading trims a text by the white space of Unicode and puts every character in
lower case by the tables of Unicode. Two characters beyond ASCII have an ASCII
letter in their lower case: the Kelvin sign has `k`, and `İ` has `i` with a
combining dot behind it. So the lower case of a text is a word of ASCII letters
other than `k` only when the text is that word up to ASCII case
(`flatMap_lower_eq_iff`). What trimming leaves is found between white space
(`trimBlank_append`, `exists_append_trimBlank`).
-/
import Mathlib.Data.List.DropRight
import Mathlib.Data.List.TakeWhile
import QuerySnippet.Text.Ascii
import QuerySnippet.Text.Blank
import QuerySnippet.Text.Case

namespace QuerySnippet.Text

/-! ## Lower case -/

/-- What holds of the first 128 characters holds of those of ASCII. -/
theorem forall_ascii {p : Char → Prop} (h : ∀ n : Fin 128, p (Char.ofNat n)) {c : Char}
    (hc : c.toNat < 128) : p c := by
  simpa using h ⟨c.toNat, hc⟩

theorem lower_of_ascii {c : Char} (h : c.toNat < 128) : lower c = [c.toLower] :=
  forall_ascii (p := fun c => lower c = [c.toLower]) (by decide +kernel) h

theorem exists_row_of_shift? {rows : List (Nat × Nat × Nat × Int)} {n m : Nat}
    (h : shift? rows n = some m) :
    ∃ row ∈ rows, row.1 ≤ n ∧ n ≤ row.2.1 ∧ m = (n + row.2.2.2).toNat := by
  induction rows with
  | nil => cases h
  | cons row rows ih =>
    obtain ⟨first, last, step, distance⟩ := row
    rw [shift?] at h
    split_ifs at h with hfirst hrun
    · simp only [Bool.and_eq_true, decide_eq_true_eq] at hrun
      exact ⟨_, List.mem_cons_self, by omega, hrun.1, (Option.some.inj h).symm⟩
    · obtain ⟨row, hmem, hrow⟩ := ih h
      exact ⟨row, List.mem_cons_of_mem _ hmem, hrow⟩

/-- No row leads from beyond ASCII into it but that of the Kelvin sign, and none to a code point
that is no character. -/
theorem lowerShifts_rows : ∀ row ∈ lowerShifts, 128 ≤ row.2.1 → row.1 = 0x212A ∨
    128 ≤ row.1 + row.2.2.2 ∧
      (row.2.1 + row.2.2.2 < 0xD800 ∨
        0xDFFF < row.1 + row.2.2.2 ∧ row.2.1 + row.2.2.2 < 0x110000) := by
  decide +kernel

theorem lowerShifts_kelvin : ∀ row ∈ lowerShifts, row.1 = 0x212A →
    row.2.1 = 0x212A ∧ row.2.2.2 = -8383 := by
  decide +kernel

/-- The lower case of a character beyond ASCII holds one, or `k`. -/
theorem exists_mem_lower {c : Char} (h : 128 ≤ c.toNat) :
    ∃ d ∈ lower c, 128 ≤ d.toNat ∨ d = 'k' := by
  unfold lower mapCase
  split
  · next n hshift =>
    refine ⟨Char.ofNat n, List.mem_singleton_self _, ?_⟩
    obtain ⟨row, hmem, hfirst, hlast, rfl⟩ := exists_row_of_shift? hshift
    rcases lowerShifts_rows row hmem (by omega) with hkelvin | ⟨hlow, hvalid⟩
    · obtain ⟨hend, hdistance⟩ := lowerShifts_kelvin row hmem hkelvin
      have hc : c.toNat = 0x212A := by omega
      rw [hc, hdistance]
      exact .inr rfl
    · have hchar : (c.toNat + row.2.2.2).toNat.isValidChar := by
        unfold Nat.isValidChar
        omega
      have hn : (Char.ofNat (c.toNat + row.2.2.2).toNat).toNat = (c.toNat + row.2.2.2).toNat := by
        rw [Char.ofNat, dif_pos hchar]
        rfl
      omega
  · next ns _ hexpansion =>
    have hns : ns = [0x69, 0x307] := by
      simp only [lowerExpansions, List.lookup_cons, List.lookup_nil] at hexpansion
      split at hexpansion
      · exact (Option.some.inj hexpansion).symm
      · cases hexpansion
    exact ⟨Char.ofNat 0x307, by simp [hns], .inl (by decide)⟩
  · exact ⟨c, List.mem_singleton_self c, .inl h⟩

/-- Only the letters from `A` to `Z` have another lower case in ASCII. -/
theorem toLower_eq_or (c : Char) : c.toLower = c ∨ 65 ≤ c.toNat ∧ c.toNat ≤ 90 := by
  unfold Char.toLower
  split
  · next h => exact .inr h
  · exact .inl rfl

theorem toNat_lt_of_toLower {c : Char} (h : c.toLower.toNat < 128) : c.toNat < 128 := by
  rcases toLower_eq_or c with hc | hc
  · rwa [hc] at h
  · omega

/-- A text has an ASCII word without `k` as its lower case exactly when it is that word up to ASCII
case. -/
theorem flatMap_lower_eq_iff {word : List Char} (hword : ∀ d ∈ word, d.toNat < 128 ∧ d ≠ 'k') :
    ∀ {cs : List Char}, cs.flatMap lower = word ↔ cs.map Char.toLower = word := by
  intro cs
  have heq : (∀ c ∈ cs, c.toNat < 128) → cs.flatMap lower = cs.map Char.toLower := by
    intro hascii
    rw [List.map_eq_flatMap]
    exact List.flatMap_congr fun c hc => lower_of_ascii (hascii c hc)
  constructor
  · rintro rfl
    refine (heq fun c hc => ?_).symm
    by_contra hbeyond
    obtain ⟨d, hd, hd'⟩ := exists_mem_lower (Nat.le_of_not_lt hbeyond)
    obtain ⟨hascii, hk⟩ := hword d (List.mem_flatMap.2 ⟨c, hc, hd⟩)
    rcases hd' with hd' | hd'
    · omega
    · exact hk hd'
  · rintro rfl
    exact heq fun c hc => toNat_lt_of_toLower (hword _ (List.mem_map_of_mem hc)).1

/-! ## White space -/

/-- White space and nothing else. -/
def Blank (s : String) : Prop := ∀ c ∈ s.toList, isBlank c = true

instance (s : String) : Decidable (Blank s) := decidable_of_iff _ List.all_eq_true

theorem toLower_of_isBlank {c : Char} (h : isBlank c = true) : c.toLower = c := by
  refine (toLower_eq_or c).resolve_right fun hletter => ?_
  have hnone : inRanges blankRanges c.toNat = false := by
    simp [blankRanges, inRanges]
    omega
  exact absurd h (by simp [isBlank, hnone])

theorem trimBlank_eq (cs : List Char) :
    trimBlank cs = (cs.dropWhile isBlank).rdropWhile isBlank := rfl

theorem exists_append_trimBlank (cs : List Char) : ∃ before after,
    cs = before ++ trimBlank cs ++ after ∧ (∀ c ∈ before, isBlank c = true) ∧
      ∀ c ∈ after, isBlank c = true := by
  refine ⟨cs.takeWhile isBlank, (cs.dropWhile isBlank).rtakeWhile isBlank, ?_,
    fun c hc => List.mem_takeWhile_imp hc, fun c hc => List.mem_rtakeWhile_imp hc⟩
  rw [trimBlank_eq, List.append_assoc, List.rdropWhile_append_rtakeWhile,
    List.takeWhile_append_dropWhile]

theorem trimBlank_append {before core after : List Char} (hb : ∀ c ∈ before, isBlank c = true)
    (hc : ∀ c ∈ core, isBlank c = false) (ha : ∀ c ∈ after, isBlank c = true) :
    trimBlank (before ++ core ++ after) = core := by
  rw [trimBlank_eq, List.append_assoc, List.dropWhile_append_of_pos hb]
  cases core with
  | nil =>
    rw [List.nil_append, List.dropWhile_eq_nil_iff.2 ha, List.rdropWhile_nil]
  | cons c core =>
    have hfirst : isBlank c = false := hc c List.mem_cons_self
    have hlast : (c :: core).rdropWhile isBlank = c :: core :=
      List.rdropWhile_eq_self_iff.2 fun hne => by simp [hc _ (List.getLast_mem hne)]
    rw [List.cons_append, List.dropWhile_cons_of_neg (by simp [hfirst]), ← List.cons_append,
      List.rdropWhile, List.reverse_append, List.dropWhile_append_of_pos (by simpa using ha)]
    exact hlast

/-! ## Words -/

/-- A trimmed text in lower case is a word exactly when the word stands in the text up to ASCII
case, with nothing but white space around it. -/
theorem lowercased_trimmed_eq_iff {text word : String}
    (hword : ∀ d ∈ word.toList, d.toNat < 128 ∧ d ≠ 'k' ∧ isBlank d = false) :
    lowercased (trimmed text) = word ↔ ∃ before core after, text = before ++ core ++ after ∧
      Blank before ∧ Blank after ∧ foldCase core = word.toList := by
  have hplain : ∀ d ∈ word.toList, d.toNat < 128 ∧ d ≠ 'k' := fun d hd =>
    ⟨(hword d hd).1, (hword d hd).2.1⟩
  rw [lowercased, trimmed, String.toList_ofList, ← String.toList_inj, String.toList_ofList,
    flatMap_lower_eq_iff hplain]
  constructor
  · intro h
    obtain ⟨before, after, htext, hb, ha⟩ := exists_append_trimBlank text.toList
    refine ⟨.ofList before, .ofList (trimBlank text.toList), .ofList after, ?_, ?_, ?_, ?_⟩
    · rw [← String.toList_inj]
      simpa using htext
    · simpa [Blank] using hb
    · simpa [Blank] using ha
    · simpa [foldCase] using h
  · rintro ⟨before, core, after, rfl, hb, ha, hcore⟩
    have hblank : ∀ c ∈ core.toList, isBlank c = false := by
      intro c hc
      by_contra hblank
      rw [Bool.not_eq_false] at hblank
      have hmem : c.toLower ∈ word.toList := hcore ▸ List.mem_map_of_mem hc
      rw [toLower_of_isBlank hblank] at hmem
      rw [(hword c hmem).2.2] at hblank
      cases hblank
    rw [String.toList_append, String.toList_append, trimBlank_append hb hblank ha]
    exact hcore

theorem trimmed_eq_empty_iff {s : String} : trimmed s = "" ↔ Blank s := by
  rw [trimmed, ← String.toList_inj, String.toList_ofList]
  constructor
  · intro hnone c hc
    obtain ⟨before, after, htext, hb, ha⟩ := exists_append_trimBlank s.toList
    have hnil : trimBlank s.toList = [] := hnone
    rw [htext, hnil, List.append_nil] at hc
    exact (List.mem_append.1 hc).elim (hb c) (ha c)
  · intro h
    have hnone : trimBlank (s.toList ++ [] ++ []) = [] := trimBlank_append h (by simp) (by simp)
    simpa using hnone

end QuerySnippet.Text
