/-
What a template means, read off its tokens.

Every token stands for one character or for one argument: an index between
braces names the argument itself, and `%s` and `%d` take the argument whose
number is how many of the two kinds came before, whatever indices stand
between. `parse_render_of_spell`: a text that has tokens asking for the first
`n` arguments only is a template for `n` arguments, and its rendering is what
the tokens stand for, one after the other, the arguments copied as they are.
-/
import QuerySnippet.Proofs.Template.Grammar

namespace QuerySnippet.Template

/-- What stands at one place of a template. -/
inductive Meaning where
  | char (c : Char)
  | argument (index : Nat)
deriving DecidableEq

/-- The text at that place. An argument beyond the first `n` has none. -/
def Meaning.text {n : Nat} (args : Fin n → String) : Meaning → List Char
  | char c => [c]
  | argument i => if h : i < n then (args ⟨i, h⟩).toList else []

/-- The text at a place, with one text for all arguments. -/
def Meaning.filled (text : List Char) : Meaning → List Char
  | char c => [c]
  | argument _ => text

/-- The meanings ask for the first `n` arguments only. -/
def Meaning.Within (n : Nat) (meanings : List Meaning) : Prop :=
  ∀ i, argument i ∈ meanings → i < n

namespace Token

/-- The token takes the next argument in order. -/
def isNext : Token → Bool
  | next _ => true
  | _ => false

/-- What a token stands for behind the tokens `before`. -/
def meaning (before : List Token) : Token → Meaning
  | plain c => .char c
  | openBrace => .char '{'
  | closeBrace => .char '}'
  | percent => .char '%'
  | barePercent => .char '%'
  | indexed digits => .argument (index digits)
  | next _ => .argument (before.countP isNext)

/-- What tokens stand for, in order. -/
def meanings (tokens : List Token) : List Meaning :=
  tokens.mapIdx fun i token => token.meaning (tokens.take i)

end Token

/-- Zeros in front of an index do not count. -/
theorem index_replicate_zero_append (zeros : Nat) (digits : List Char) :
    index (List.replicate zeros '0' ++ digits) = index digits := by
  rw [index, Nat.ofDigitChars_append, Nat.ofDigitChars_replicate_zero, Nat.mul_zero, index]

/-- One more than the largest index is a bound just when all indices are below it. -/
theorem max?_elim_le_iff {indices : List Nat} {m : Nat} :
    indices.max?.elim 0 (· + 1) ≤ m ↔ ∀ i ∈ indices, i < m := by
  cases hmax : indices.max? with
  | none => simp [List.max?_eq_none_iff.1 hmax]
  | some i =>
    obtain ⟨hmem, hle⟩ := List.max?_eq_some_iff.1 hmax
    constructor
    · intro h j hj
      have hji : j ≤ i := hle j hj
      have him : i + 1 ≤ m := h
      omega
    · intro h
      exact h i hmem

/-! ## The parts mean what the tokens mean -/

/-- What a part stands for. -/
def Part.meanings : Part → List Meaning
  | literal text => text.map .char
  | arg i => [.argument i]

theorem Part.flatMap_meanings_consChar (c : Char) (parts : List Part) :
    (consChar c parts).flatMap meanings = .char c :: parts.flatMap meanings := by
  unfold consChar
  split <;> simp [meanings]

theorem Part.flatMap_meanings_ofTokens (before : List Token) : ∀ tokens : List Token,
    (ofTokens (before.countP Token.isNext) tokens).flatMap meanings =
      tokens.mapIdx fun i token => token.meaning (before ++ tokens.take i)
  | [] => rfl
  | token :: tokens => by
    have ih := flatMap_meanings_ofTokens (before ++ [token]) tokens
    simp only [List.append_assoc, List.singleton_append] at ih
    rw [List.mapIdx_cons]
    simp only [List.take_zero, List.append_nil, List.take_succ_cons, ← ih]
    cases token <;>
      simp [ofTokens, flatMap_meanings_consChar, Token.meaning, meanings, Token.isNext]

theorem Part.scan_of_spell {source : List Char} {tokens : List Token}
    (h : Token.Spell tokens source) : scan source = .ok (ofTokens 0 tokens) := by
  rw [scan, Token.read_of_spell h]
  rfl

/-- The parts of tokens that begin a text stand for what the tokens stand for. -/
theorem Part.flatMap_meanings_of_tokens (tokens : List Token) :
    (ofTokens 0 tokens).flatMap meanings = Token.meanings tokens :=
  flatMap_meanings_ofTokens [] tokens

theorem Part.fitsIn_iff {n : Nat} {part : Part} :
    part.FitsIn n ↔ Meaning.Within n part.meanings := by
  cases part <;> simp [FitsIn, Meaning.Within, meanings]

theorem Part.fill_eq {n : Nat} (args : Fin n → String) {part : Part} (h : part.FitsIn n) :
    part.fill args h = part.meanings.flatMap (·.text args) := by
  cases part with
  | literal text => simp [fill, meanings, Meaning.text, List.flatMap_map]
  | arg i =>
    have hi : i < n := h
    simp [fill, meanings, Meaning.text, hi]

/-! ## Templates -/

variable {n : Nat}

/-- What a template stands for, in order. -/
def meanings (t : Template n) : List Meaning := t.parts.flatMap Part.meanings

theorem toList_render (t : Template n) (args : Fin n → String) :
    (t.render args).toList = t.meanings.flatMap (·.text args) := by
  simp only [render, String.toList_ofList, meanings, List.flatMap_assoc, Part.fill_eq]
  rw [List.flatMap_subtype (g := fun part => part.meanings.flatMap (·.text args)) (by simp),
    List.unattach_attach]

/-- A template asks for no more than `m` arguments when it names none beyond them. -/
theorem referencedArgs_le_iff {t : Template n} {m : Nat} :
    t.referencedArgs ≤ m ↔ Meaning.Within m t.meanings := by
  simp only [referencedArgs, meanings]
  induction t.parts with
  | nil => simp [Meaning.Within]
  | cons part parts ih =>
    have hpart : part.needs ≤ m ↔ Meaning.Within m part.meanings := by
      cases part with
      | literal text => simp [Part.needs, Part.meanings, Meaning.Within]
      | arg i =>
        rw [Part.needs, Nat.add_one_le_iff]
        simp [Part.meanings, Meaning.Within]
    rw [List.map_cons, List.foldr_cons, Nat.max_le, hpart, ih]
    simp [Meaning.Within, or_imp, forall_and]

/-- A template is what its own text is read as. -/
theorem parse_source (t : Template n) : parse n t.source = .ok t := by
  obtain ⟨source, parts, scanned, fits⟩ := t
  unfold parse
  split
  · next fault h => cases scanned.symm.trans h
  · next parts' h =>
    cases scanned.symm.trans h
    split
    · next index beyond =>
      obtain ⟨part, hmem, hpart⟩ := List.exists_of_findSome?_eq_some beyond
      rw [Part.beyond?_eq_none_iff.2 (fits part hmem)] at hpart
      cases hpart
    · rfl

theorem parse_eq_ok_iff {source : String} {t : Template n} :
    parse n source = .ok t ↔ source = t.source := by
  constructor
  · intro h
    unfold parse at h
    split at h
    · cases h
    · split at h
      · cases h
      · cases h
        rfl
  · rintro rfl
    exact parse_source t

/-- The text of a template is made of tokens. -/
theorem exists_spell (t : Template n) : ∃ tokens, Token.Spell tokens t.source.toList := by
  obtain ⟨tokens, hread, -⟩ := Except.map_eq_ok.1 t.scan_source
  exact ⟨tokens, Token.spell_of_read hread⟩

/-- A template has the parts of its tokens. -/
theorem parts_of_spell {t : Template n} {tokens : List Token}
    (h : Token.Spell tokens t.source.toList) : t.parts = Part.ofTokens 0 tokens :=
  Except.ok.inj (t.scan_source.symm.trans (Part.scan_of_spell h))

/-- A template stands for what its tokens stand for. -/
theorem meanings_of_spell {t : Template n} {tokens : List Token}
    (h : Token.Spell tokens t.source.toList) : t.meanings = Token.meanings tokens := by
  rw [meanings, parts_of_spell h, Part.flatMap_meanings_of_tokens]

theorem within_meanings (t : Template n) : Meaning.Within n t.meanings := by
  intro i hi
  obtain ⟨part, hmem, hpart⟩ := List.mem_flatMap.1 hi
  exact Part.fitsIn_iff.1 (t.fits part hmem) i hpart

/-- A template with one argument has the text of that in all places that its tokens leave. -/
theorem toList_render_of_spell {t : Template 1} {tokens : List Token}
    (h : Token.Spell tokens t.source.toList) (args : Fin 1 → String) :
    (t.render args).toList = (Token.meanings tokens).flatMap (·.filled (args 0).toList) := by
  rw [toList_render, ← meanings_of_spell h]
  refine List.flatMap_congr fun meaning hmem => ?_
  cases meaning with
  | char c => rfl
  | argument i =>
    have hi : i < 1 := t.within_meanings i hmem
    obtain rfl : i = 0 := by omega
    rfl

/-- Tokens that ask for the first `n` arguments only are a template. -/
theorem exists_of_spell {source : String} {tokens : List Token}
    (h : Token.Spell tokens source.toList) (hw : Meaning.Within n (Token.meanings tokens)) :
    ∃ t : Template n, t.source = source := by
  refine ⟨⟨source, Part.ofTokens 0 tokens, Part.scan_of_spell h, fun part hmem => ?_⟩, rfl⟩
  refine Part.fitsIn_iff.2 fun i hi => hw i ?_
  rw [← Part.flatMap_meanings_of_tokens]
  exact List.mem_flatMap_of_mem hmem hi

/-- **A template is a row of tokens, in one way, and renders as what they stand for.** -/
theorem parse_render_of_spell (source : String) :
    ((∃ parts, Part.scan source.toList = .ok parts) ↔
      ∃ tokens, Token.Spell tokens source.toList) ∧
    (∀ s t, Token.Spell s source.toList → Token.Spell t source.toList → s = t) ∧
    (∀ (n : Nat) (tokens : List Token), Token.Spell tokens source.toList →
      Meaning.Within n (Token.meanings tokens) →
      ∃ t : Template n, parse n source = .ok t ∧ ∀ args : Fin n → String,
        (t.render args).toList = (Token.meanings tokens).flatMap (·.text args)) ∧
    ∀ (zeros : Nat) (digits : List Char),
      index (List.replicate zeros '0' ++ digits) = index digits := by
  refine ⟨?_, fun s t => Token.Spell.unique, ?_, index_replicate_zero_append⟩
  · simp only [Part.scan, Except.map_eq_ok, Token.read_eq_ok_iff]
    exact ⟨fun ⟨_, tokens, h, _⟩ => ⟨tokens, h⟩, fun ⟨tokens, h⟩ => ⟨_, tokens, h, rfl⟩⟩
  · intro n tokens h hw
    obtain ⟨t, rfl⟩ := exists_of_spell h hw
    exact ⟨t, parse_source t, fun args => by rw [toList_render, meanings_of_spell h]⟩

/-- Every form next to one that it could be mistaken for. -/
theorem parse_render_of_adjacent_forms :
    ∃ t : Template 2, parse 2 "\x7b\x7b\x7b01\x7d\x7d\x7d%%s%d%\x7b0\x7d%s%" = .ok t ∧
      ∀ args : Fin 2 → String, (t.render args).toList =
        '{' :: (args 1).toList ++ '}' :: '%' :: 's' :: (args 0).toList ++
          '%' :: (args 0).toList ++ (args 1).toList ++ ['%'] := by
  let tokens : List Token := [.openBrace, .indexed ['0', '1'], .closeBrace, .percent, .plain 's',
    .next .decimal, .barePercent, .indexed ['0'], .next .text, .barePercent]
  have hspell : Token.Spell tokens "\x7b\x7b\x7b01\x7d\x7d\x7d%%s%d%\x7b0\x7d%s%".toList :=
    Token.spell_of_read (by decide +kernel)
  have hm : Token.meanings tokens = [.char '{', .argument 1, .char '}', .char '%', .char 's',
      .argument 0, .char '%', .argument 0, .argument 1, .char '%'] := rfl
  obtain ⟨t, ht, hr⟩ :=
    (parse_render_of_spell _).2.2.1 2 tokens hspell (by simp [hm, Meaning.Within])
  refine ⟨t, ht, fun args => ?_⟩
  rw [hr args, hm]
  simp [Meaning.text]

end QuerySnippet.Template
