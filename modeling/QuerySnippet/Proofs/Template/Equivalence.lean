/-
Templates that render alike.

Arguments of one character each put one character in every place of a template, that of
the text or that of the argument. Two rows of places that come out alike for all such
arguments are the same row (`Meaning.eq_of_map_choose_eq`), and parts in normal form are
those that their places make up (`Part.ofMeanings_flatMap_meanings`). So templates with
the same renderings have the same parts, however they are written
(`render_eq_iff_parts_eq`).
-/
import QuerySnippet.Proofs.Template.Canonical
import QuerySnippet.Proofs.Template.Meaning

namespace QuerySnippet.Template

/-! ## Arguments of one character -/

/-- The character at a place, when every argument is the one that is chosen for it. -/
def Meaning.choose (f : Nat → Char) : Meaning → Char
  | char c => c
  | argument i => f i

theorem Meaning.text_singleton {n : Nat} (f : Nat → Char) {meaning : Meaning}
    (h : Within n [meaning]) :
    meaning.text (fun i : Fin n => String.singleton (f i)) = [meaning.choose f] := by
  cases meaning with
  | char c => rfl
  | argument i =>
    have hi : i < n := h i (List.mem_singleton_self _)
    simp [text, choose, hi]

/-- With arguments of one character a rendering has one character for every place. -/
theorem Meaning.flatMap_text_singleton {n : Nat} (f : Nat → Char) {meanings : List Meaning}
    (h : Within n meanings) :
    meanings.flatMap (·.text fun i : Fin n => String.singleton (f i)) =
      meanings.map (choose f) := by
  rw [List.map_eq_flatMap]
  refine List.flatMap_congr fun meaning hmem => text_singleton f fun i hi => h i ?_
  rwa [List.mem_singleton.1 hi]

/-- Different places can be told apart by a choice of characters. -/
theorem Meaning.eq_of_choose_eq {m m' : Meaning} (h : ∀ f, m.choose f = m'.choose f) : m = m' := by
  have hother : ∀ c : Char, ∃ d, d ≠ c := fun c =>
    if hc : c = 'a' then ⟨'b', by simp [hc]⟩ else ⟨'a', Ne.symm hc⟩
  cases m with
  | char c =>
    cases m' with
    | char d => exact congrArg char (h fun _ => c)
    | argument j =>
      obtain ⟨d, hd⟩ := hother c
      exact absurd (h fun _ => d).symm hd
  | argument i =>
    cases m' with
    | char d =>
      obtain ⟨c, hc⟩ := hother d
      exact absurd (h fun _ => c) hc
    | argument j =>
      by_contra hne
      have hij : j ≠ i := fun he => hne (congrArg argument he.symm)
      have hsame := h fun k => if k = i then 'a' else 'b'
      simp [choose, hij] at hsame

theorem Meaning.eq_of_map_choose_eq : ∀ {ms ms' : List Meaning},
    (∀ f, ms.map (choose f) = ms'.map (choose f)) → ms = ms'
  | [], [], _ => rfl
  | [], _ :: _, h => by cases h fun _ => 'a'
  | _ :: _, [], h => by cases h fun _ => 'a'
  | m :: ms, m' :: ms', h => by
    have hfirst : m = m' := eq_of_choose_eq fun f => (List.cons.inj (h f)).1
    have hrest : ms = ms' := eq_of_map_choose_eq fun f => (List.cons.inj (h f)).2
    rw [hfirst, hrest]

/-! ## Parts from their places -/

/-- The parts that places make up. -/
def Part.ofMeanings : List Meaning → List Part
  | [] => []
  | .char c :: meanings => consChar c (ofMeanings meanings)
  | .argument i :: meanings => arg i :: ofMeanings meanings

theorem Part.ofMeanings_map_char_append (text : List Char) (meanings : List Meaning) :
    ofMeanings (text.map .char ++ meanings) = text.foldr consChar (ofMeanings meanings) := by
  induction text with
  | nil => rfl
  | cons c text ih => exact congrArg (consChar c) ih

/-- Parts in normal form are those that their places make up. -/
theorem Part.ofMeanings_flatMap_meanings {parts : List Part} (h : Canonical parts) :
    ofMeanings (parts.flatMap meanings) = parts := by
  induction h with
  | nil => rfl
  | @literal text parts hne hfirst _ ih =>
    rw [List.flatMap_cons, meanings, ofMeanings_map_char_append, ih, foldr_consChar hfirst hne]
  | @arg index parts _ ih => exact congrArg (Part.arg index :: ·) ih

/-! ## Templates -/

variable {n : Nat}

theorem parts_eq_of_meanings_eq {t t' : Template n} (h : t.meanings = t'.meanings) :
    t.parts = t'.parts := by
  have hcanonical (t : Template n) : Part.ofMeanings t.meanings = t.parts :=
    Part.ofMeanings_flatMap_meanings (Part.canonical_of_scan t.scan_source)
  rw [← hcanonical t, ← hcanonical t', h]

theorem meanings_eq_of_render_eq {t t' : Template n} (h : ∀ args, t.render args = t'.render args) :
    t.meanings = t'.meanings := by
  refine Meaning.eq_of_map_choose_eq fun f => ?_
  rw [← Meaning.flatMap_text_singleton f t.within_meanings,
    ← Meaning.flatMap_text_singleton f t'.within_meanings, ← toList_render, ← toList_render, h]

theorem render_eq_of_parts_eq {t t' : Template n} (h : t.parts = t'.parts) (args : Fin n → String) :
    t.render args = t'.render args := by
  rw [← String.toList_inj, toList_render, toList_render, meanings, meanings, h]

theorem eq_iff_source_eq {t t' : Template n} : t = t' ↔ t.source = t'.source := by
  refine ⟨congrArg source, fun h => ?_⟩
  have ht := t.parse_source
  rw [h, t'.parse_source] at ht
  exact (Except.ok.inj ht).symm

/-- **Parts are a normal form of what a template does.** No literal is empty and no two are
neighbours, and two templates render alike just when their parts are the same. They are the same
template only when they are written alike. -/
theorem render_eq_iff_parts_eq :
    (∀ (source : String) (parts : List Part), Part.scan source.toList = .ok parts →
      .literal [] ∉ parts ∧ parts.IsChain fun p q => ¬ (p.IsLiteral ∧ q.IsLiteral)) ∧
    ∀ (n : Nat) (source source' : String) (t t' : Template n),
      parse n source = .ok t → parse n source' = .ok t' →
        ((∀ args, t.render args = t'.render args) ↔ t.parts = t'.parts) ∧
        ((t == t') = true ↔ source = source') := by
  refine ⟨fun source parts h => ?_, fun n source source' t t' ht ht' => ⟨?_, ?_⟩⟩
  · have hcanonical := Part.canonical_of_scan h
    exact ⟨hcanonical.literal_nil_notMem, hcanonical.isChain⟩
  · exact ⟨fun h => parts_eq_of_meanings_eq (meanings_eq_of_render_eq h), render_eq_of_parts_eq⟩
  · rw [beq_iff_eq, eq_iff_source_eq, parse_eq_ok_iff.1 ht, parse_eq_ok_iff.1 ht']

/-- An escaped brace and the first argument, written in two ways, and the argument alone. -/
theorem render_eq_iff_parts_eq_of_spellings :
    ∃ t t' u : Template 1, parse 1 "\x7b\x7b%s" = .ok t ∧
      parse 1 "\x7b\x7b\x7b00\x7d" = .ok t' ∧ parse 1 "%s" = .ok u ∧
      (.literal [] ∉ t.parts ∧ t.parts.IsChain fun p q => ¬ (p.IsLiteral ∧ q.IsLiteral)) ∧
      (∀ args, t.render args = t'.render args) ∧ ¬ (t == t') = true ∧
      ¬ ∀ args, t.render args = u.render args := by
  let t : Template 1 := ⟨"\x7b\x7b%s", [.literal ['\x7b'], .arg 0], by decide +kernel, by
    simp [Part.FitsIn]⟩
  let t' : Template 1 := ⟨"\x7b\x7b\x7b00\x7d", [.literal ['\x7b'], .arg 0], by decide +kernel, by
    simp [Part.FitsIn]⟩
  let u : Template 1 := ⟨"%s", [.arg 0], by decide +kernel, by simp [Part.FitsIn]⟩
  obtain ⟨hcanonical, hiff⟩ := render_eq_iff_parts_eq
  obtain ⟨hrender, hequal⟩ := hiff 1 _ _ t t' t.parse_source t'.parse_source
  obtain ⟨hother, -⟩ := hiff 1 _ _ t u t.parse_source u.parse_source
  exact ⟨t, t', u, t.parse_source, t'.parse_source, u.parse_source,
    hcanonical _ _ t.scan_source, hrender.2 rfl, fun h => absurd (hequal.1 h) (by decide),
    fun h => absurd (hother.1 h) (by decide)⟩

end QuerySnippet.Template
