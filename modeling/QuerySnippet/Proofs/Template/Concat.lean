/-
Templates one behind the other.

Where two texts that are made of tokens meet, only a bare percent sign minds what comes
next: with `%`, `s` or `d` behind it it would be a longer form (`Clash`). Everywhere else
the tokens of the two texts stand one behind the other, and so do their parts, with two
changes: a literal that ends the first and one that begins the second become one
(`Part.concat`), and what the second takes in order comes after what the first has taken
(`Part.shift`). `scan_append_of_spell` says so for all texts, and what follows for the
renderings.
-/
import QuerySnippet.Proofs.Template.Meaning

namespace QuerySnippet.Template

namespace Token

/-! ## The seam -/

/-- The tokens end in a bare percent sign, and the text goes on with a character that would make
a longer form of it. -/
def Clash (tokens : List Token) (cs : List Char) : Prop :=
  tokens.getLast? = some barePercent ∧ ∃ c ∈ cs.head?, c = '%' ∨ c = 's' ∨ c = 'd'

theorem mayPrecede_iff_not_clash {token : Token} {cs : List Char} :
    token.MayPrecede cs ↔ ¬ Clash [token] cs := by
  cases token with
  | barePercent => cases cs <;> simp [MayPrecede, Clash]
  | _ => simp [MayPrecede, Clash]

theorem spell_nil_iff {cs : List Char} : Spell [] cs ↔ cs = [] := by
  constructor
  · rintro ⟨⟩
    rfl
  · rintro rfl
    exact .nil

theorem spell_cons_iff {token : Token} {tokens : List Token} {cs : List Char} :
    Spell (token :: tokens) (token.spelling ++ cs) ↔
      token.Legal ∧ token.MayPrecede cs ∧ Spell tokens cs := by
  constructor
  · intro h
    generalize htext : token.spelling ++ cs = text at h
    obtain _ | ⟨hl, hp, hs⟩ := h
    obtain rfl := List.append_cancel_left htext
    exact ⟨hl, hp, hs⟩
  · rintro ⟨hl, hp, hs⟩
    exact .cons hl hp hs

theorem Spell.ne_nil {token : Token} {tokens : List Token} {cs : List Char}
    (h : Spell (token :: tokens) cs) : cs ≠ [] := by
  obtain _ | ⟨-, -, -⟩ := h
  exact List.append_ne_nil_of_left_ne_nil (List.ne_nil_of_length_pos (length_spelling_pos token)) _

/-- Two texts put together are made of the tokens of both just when these do not clash. -/
theorem spell_append_iff {s t : List Token} {a b : List Char} (hs : Spell s a) (ht : Spell t b) :
    Spell (s ++ t) (a ++ b) ↔ ¬ Clash s b := by
  induction hs with
  | nil => simpa [Clash] using ht
  | @cons token tokens cs hl hp hrest ih =>
    rw [List.cons_append, List.append_assoc, spell_cons_iff, ih]
    -- of the first tokens only the last stands next to `b`
    cases tokens with
    | nil =>
      obtain rfl := spell_nil_iff.1 hrest
      rw [List.nil_append, mayPrecede_iff_not_clash]
      simp [hl, Clash]
    | cons next tokens =>
      rw [mayPrecede_append_of_ne_nil hrest.ne_nil]
      simp [hl, hp, Clash]

/-- The token stands for an argument. -/
def isPlaceholder : Token → Bool
  | indexed _ | next _ => true
  | _ => false

end Token

namespace Part

/-! ## Parts one behind the other -/

/-- The parts in order. Two literals that meet in the middle become one. -/
def concat : List Part → List Part → List Part
  | [], qs => qs
  | [literal text], literal more :: qs => literal (text ++ more) :: qs
  | part :: ps, qs => part :: concat ps qs

/-- The parts with all arguments moved up by `k` that are taken in order. The placeholders are those
the parts were read from. -/
def shift (k : Nat) : List Token → List Part → List Part
  | _, [] => []
  | placeholders, literal text :: parts => literal text :: shift k placeholders parts
  | [], arg i :: parts => arg i :: parts
  | placeholder :: placeholders, arg i :: parts =>
    arg (if placeholder.isNext then i + k else i) :: shift k placeholders parts

theorem concat_consChar (c : Char) (ps qs : List Part) :
    concat (consChar c ps) qs = consChar c (concat ps qs) := by
  match ps, qs with
  | [], [] | [], literal _ :: _ | [], arg _ :: _ => rfl
  | [literal _], [] | [literal _], literal _ :: _ | [literal _], arg _ :: _ => rfl
  | literal _ :: _ :: _, _ => rfl
  | arg _ :: _, _ => rfl

theorem shift_consChar (k : Nat) (placeholders : List Token) (c : Char) (parts : List Part) :
    shift k placeholders (consChar c parts) = consChar c (shift k placeholders parts) := by
  match placeholders, parts with
  | _, [] | _, literal _ :: _ | [], arg _ :: _ | _ :: _, arg _ :: _ => simp [consChar, shift]

theorem flatMap_meanings_concat : ∀ ps qs : List Part,
    (concat ps qs).flatMap meanings = ps.flatMap meanings ++ qs.flatMap meanings
  | [], qs => rfl
  | [literal text], literal more :: qs => by simp [concat, meanings]
  | [literal _], [] | [literal _], arg _ :: _ => by simp [concat]
  | arg i :: ps, qs => by simp [concat, flatMap_meanings_concat ps qs]
  | literal text :: p :: ps, qs => by simp [concat, flatMap_meanings_concat (p :: ps) qs]

/-- The parts of tokens behind others, when `taken` arguments have been taken before them all. -/
theorem ofTokens_append (taken : Nat) (s t : List Token) :
    ofTokens taken (s ++ t) =
      concat (ofTokens taken s) (ofTokens (taken + s.countP Token.isNext) t) := by
  induction s generalizing taken with
  | nil => rfl
  | cons token s ih =>
    cases token with
    | plain _ | openBrace | closeBrace | percent | barePercent =>
      simp [ofTokens, ih, concat_consChar, Token.isNext]
    | indexed _ => simp [ofTokens, ih, concat, Token.isNext]
    | next _ =>
      have hcount : taken + 1 + s.countP Token.isNext = taken + (s.countP Token.isNext + 1) := by
        omega
      simp [ofTokens, ih, concat, List.countP_cons, Token.isNext, hcount]

/-- Arguments that were taken before move up those that are taken in order, and no others. -/
theorem ofTokens_add (taken k : Nat) (tokens : List Token) :
    ofTokens (taken + k) tokens =
      shift k (tokens.filter Token.isPlaceholder) (ofTokens taken tokens) := by
  induction tokens generalizing taken with
  | nil => rfl
  | cons token tokens ih =>
    cases token with
    | plain _ | openBrace | closeBrace | percent | barePercent =>
      simp [ofTokens, ih, shift_consChar, Token.isPlaceholder]
    | indexed _ => simp [ofTokens, ih, shift, List.filter_cons, Token.isPlaceholder, Token.isNext]
    | next _ =>
      have hnext : ofTokens (taken + k + 1) tokens =
          shift k (tokens.filter Token.isPlaceholder) (ofTokens (taken + 1) tokens) := by
        rw [← ih, Nat.add_right_comm]
      simp [ofTokens, hnext, shift, List.filter_cons, Token.isPlaceholder, Token.isNext]

/-- Where nothing is taken in order nothing moves. -/
theorem shift_of_not_isNext (k : Nat) : ∀ {placeholders : List Token} (parts : List Part),
    (∀ token ∈ placeholders, token.isNext = false) → shift k placeholders parts = parts
  | _, [], _ => by simp [shift]
  | placeholders, literal _ :: parts, h => by
    rw [shift, shift_of_not_isNext k parts h]
  | [], arg _ :: _, _ => rfl
  | placeholder :: _, arg _ :: parts, h => by
    have hfirst : placeholder.isNext = false := h placeholder List.mem_cons_self
    have hrest := shift_of_not_isNext k parts fun token ht => h token (List.mem_cons_of_mem _ ht)
    rw [shift, hrest, hfirst]
    rfl

end Part

/-! ## Templates one behind the other -/

variable {n : Nat}

/-- When the second takes nothing in order, the two mean what they mean alone. -/
theorem meanings_append {s t : List Token} (h : ∀ token ∈ t, token.isNext = false) :
    Token.meanings (s ++ t) = Token.meanings s ++ Token.meanings t := by
  have hshift : ∀ token ∈ t.filter Token.isPlaceholder, token.isNext = false := fun token ht =>
    h token (List.mem_filter.1 ht).1
  rw [← Part.flatMap_meanings_of_tokens, Part.ofTokens_append, Part.ofTokens_add,
    Part.shift_of_not_isNext _ _ hshift, Part.flatMap_meanings_concat,
    Part.flatMap_meanings_of_tokens, Part.flatMap_meanings_of_tokens]

theorem exists_template_append {s t : List Token} {ta tb : Template n}
    (hs : Token.Spell s ta.source.toList) (ht : Token.Spell t tb.source.toList)
    (hseam : Token.Spell (s ++ t) (ta.source ++ tb.source).toList)
    (hnext : ∀ token ∈ t, token.isNext = false) :
    ∃ tc : Template n, parse n (ta.source ++ tb.source) = .ok tc ∧
      ∀ args, tc.render args = ta.render args ++ tb.render args := by
  have hmeanings : Token.meanings (s ++ t) = ta.meanings ++ tb.meanings := by
    rw [meanings_append hnext, meanings_of_spell hs, meanings_of_spell ht]
  have hwithin : Meaning.Within n (Token.meanings (s ++ t)) := by
    intro i hi
    rw [hmeanings, List.mem_append] at hi
    exact hi.elim (ta.within_meanings i) (tb.within_meanings i)
  obtain ⟨tc, hsource⟩ := exists_of_spell hseam hwithin
  refine ⟨tc, hsource ▸ tc.parse_source, fun args => ?_⟩
  rw [← hsource] at hseam
  rw [← String.toList_inj, String.toList_append, toList_render, toList_render, toList_render,
    meanings_of_spell hseam, hmeanings, List.flatMap_append]

/-- **Two texts put together have the parts of both, one behind the other**, unless a bare percent
sign stands at the seam and the second text makes a longer form of it: then the tokens are others.
Texts that take nothing in order render one behind the other too. -/
theorem scan_append_of_spell {a b : String} {s t : List Token} (hs : Token.Spell s a.toList)
    (ht : Token.Spell t b.toList) :
    (Token.Spell (s ++ t) (a ++ b).toList ↔ ¬ Token.Clash s b.toList) ∧
    (¬ Token.Clash s b.toList →
      (∃ ps qs, Part.scan a.toList = .ok ps ∧ Part.scan b.toList = .ok qs ∧
        Part.scan (a ++ b).toList = .ok (Part.concat ps
          (Part.shift (s.countP Token.isNext) (t.filter Token.isPlaceholder) qs))) ∧
      ((∀ token ∈ t, token.isNext = false) → ∀ (n : Nat) (ta tb : Template n),
        parse n a = .ok ta → parse n b = .ok tb →
          ∃ tc : Template n, parse n (a ++ b) = .ok tc ∧
            ∀ args, tc.render args = ta.render args ++ tb.render args)) := by
  have hseam : Token.Spell (s ++ t) (a ++ b).toList ↔ ¬ Token.Clash s b.toList := by
    rw [String.toList_append]
    exact Token.spell_append_iff hs ht
  refine ⟨hseam, fun hclash => ⟨?_, fun hnext n ta tb hta htb => ?_⟩⟩
  · refine ⟨_, _, Part.scan_of_spell hs, Part.scan_of_spell ht, ?_⟩
    rw [Part.scan_of_spell (hseam.2 hclash), Part.ofTokens_append, Part.ofTokens_add]
  · obtain rfl := parse_eq_ok_iff.1 hta
    obtain rfl := parse_eq_ok_iff.1 htb
    exact exists_template_append hs ht (hseam.2 hclash) hnext

/-- A bare percent sign at the seam, in front of a letter that leaves it alone and of one that does
not. -/
theorem scan_append_of_spell_bare_percent :
    Part.scan ("%s%" ++ "x\x7b0\x7d%d").toList =
      .ok [.arg 0, .literal ['%', 'x'], .arg 0, .arg 1] ∧
    (∃ t : Template 2, parse 2 ("%s%" ++ "x\x7b1\x7d") = .ok t ∧ ∀ args : Fin 2 → String,
      (t.render args).toList = (args 0).toList ++ ['%', 'x'] ++ (args 1).toList) ∧
    ¬ Token.Spell [.next .text, .barePercent, .plain 's'] ("%s%" ++ "s").toList := by
  have hs : Token.Spell [.next .text, .barePercent] "%s%".toList :=
    Token.spell_of_read (by decide +kernel)
  have hordered : Token.Spell [.plain 'x', .indexed ['0'], .next .decimal] "x\x7b0\x7d%d".toList :=
    Token.spell_of_read (by decide +kernel)
  have hindexed : Token.Spell [.plain 'x', .indexed ['1']] "x\x7b1\x7d".toList :=
    Token.spell_of_read (by decide +kernel)
  have hletter : Token.Spell [.plain 's'] "s".toList := Token.spell_of_read (by decide +kernel)
  refine ⟨?_, ?_, fun h => (scan_append_of_spell hs hletter).1.1 h ?_⟩
  · obtain ⟨ps, qs, hps, hqs, hscan⟩ :=
      ((scan_append_of_spell hs hordered).2 (by simp [Token.Clash])).1
    obtain rfl : ps = [.arg 0, .literal ['%']] :=
      Except.ok.inj (hps.symm.trans (by decide +kernel))
    obtain rfl : qs = [.literal ['x'], .arg 0, .arg 0] :=
      Except.ok.inj (hqs.symm.trans (by decide +kernel))
    exact hscan
  · have hone : index ['1'] = 1 := by decide
    obtain ⟨ta, hta⟩ := exists_of_spell (n := 2) hs
      (by simp [Token.meanings, Token.meaning, Meaning.Within])
    obtain ⟨tb, htb⟩ := exists_of_spell (n := 2) hindexed
      (by simp [Token.meanings, Token.meaning, Meaning.Within, hone])
    obtain ⟨tc, hparse, hrender⟩ := ((scan_append_of_spell hs hindexed).2
      (by simp [Token.Clash])).2 (by simp [Token.isNext]) 2 ta tb (hta ▸ ta.parse_source)
        (htb ▸ tb.parse_source)
    refine ⟨tc, hparse, fun args => ?_⟩
    rw [hrender, String.toList_append, toList_render, toList_render,
      meanings_of_spell (hta ▸ hs), meanings_of_spell (htb ▸ hindexed)]
    simp [Token.meanings, Token.meaning, Meaning.text, hone]
  · simp [Token.Clash]

end QuerySnippet.Template
