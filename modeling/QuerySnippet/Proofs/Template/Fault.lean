/-
The errors of texts that are no templates.

A text that is not made of tokens is read up to one place, the leftmost where no
token begins (`StopsAt`): what stands before it is made of tokens, and the fault
that stands there is reported, for every number of arguments. Only a text that is
made of tokens can ask for too many arguments, and then the first of them is
reported. So a fault goes before an argument too many, wherever the two stand
(`parse_reports_leftmost`).
-/
import QuerySnippet.Proofs.Template.Meaning

namespace QuerySnippet.Template

open Token (Spell Readable FaultAt)

/-! ## The place where reading stops -/

/-- The text is made of tokens up to `rest`, which begins with none. -/
structure StopsAt (source before rest : List Char) : Prop where
  split : source = before ++ rest
  spelled : ∃ tokens, Spell tokens before
  remains : rest ≠ []
  unreadable : ¬ Readable rest

theorem StopsAt.exists_faultAt {source before rest : List Char} (h : StopsAt source before rest) :
    ∃ fault, FaultAt rest fault := by
  rcases Token.cases_of_text rest with hnil | hread | hfault
  · exact absurd hnil h.remains
  · exact absurd hread h.unreadable
  · exact hfault

theorem StopsAt.braceFirst {source before rest : List Char} (h : StopsAt source before rest) :
    Token.BraceFirst rest := by
  obtain ⟨fault, hf⟩ := h.exists_faultAt
  obtain ⟨c, rest', rfl, hc⟩ := hf.exists_brace
  simpa [Token.BraceFirst] using hc

theorem not_spell_of_stopsAt {source before rest : List Char} (h : StopsAt source before rest) :
    ¬ ∃ tokens, Spell tokens source := by
  rintro ⟨tokens, hs⟩
  obtain ⟨tokens', hs'⟩ := h.spelled
  obtain ⟨fault, hf⟩ := h.exists_faultAt
  have herror : Token.read source = .error fault := by
    rw [h.split]
    exact Token.read_of_spell_faultAt hs' hf
  rw [Token.read_of_spell hs] at herror
  cases herror

theorem exists_stopsAt {source : List Char} (h : ¬ ∃ tokens, Spell tokens source) :
    ∃ before rest, StopsAt source before rest := by
  rcases Token.spell_or_faultAt source with hs | ⟨before, rest, tokens, fault, hsplit, hs, hf⟩
  · exact absurd hs h
  · have hne : rest ≠ [] := by
      obtain ⟨c, rest', rfl, -⟩ := hf.exists_brace
      simp
    exact ⟨before, rest, hsplit, ⟨tokens, hs⟩, hne, hf.not_readable⟩

/-- Tokens do not go on behind the place where no token begins. -/
theorem StopsAt.eq_nil_of_spell {source before more rest : List Char} {tokens : List Token}
    (h : StopsAt source before (more ++ rest)) (hrest : Token.BraceFirst rest)
    (hs : Spell tokens (before ++ more)) : more = [] := by
  by_contra hmore
  obtain ⟨tokens', hs'⟩ := h.spelled
  have hbrace : Token.BraceFirst more := by
    intro c hc
    refine h.braceFirst c ?_
    rw [List.head?_append, Option.mem_def.1 hc]
    rfl
  have hread : (tokens' ++ ·) <$> Token.read more = .ok tokens := by
    rw [← Token.read_append_of_spell hs' hbrace]
    exact Token.read_of_spell hs
  obtain ⟨tokens'', hread', -⟩ := Except.map_eq_ok.1 hread
  -- the first of the tokens that `more` is made of begins the rest of the text too
  cases Token.spell_of_read hread' with
  | nil => exact hmore rfl
  | @cons token tokens'' cs hl hp _ =>
    refine h.unreadable ⟨token, cs ++ rest, hl, ?_, by simp⟩
    exact (Token.mayPrecede_append_iff hrest).2 hp

/-- There is one such place at most. -/
theorem StopsAt.unique {source before rest before' rest' : List Char}
    (h : StopsAt source before rest) (h' : StopsAt source before' rest') :
    before = before' ∧ rest = rest' := by
  obtain ⟨tokens, hs⟩ := h.spelled
  obtain ⟨tokens', hs'⟩ := h'.spelled
  rcases List.append_eq_append_iff.1 (h.split.symm.trans h'.split) with
    ⟨more, rfl, rfl⟩ | ⟨more, rfl, rfl⟩
  · obtain rfl := h.eq_nil_of_spell h'.braceFirst hs'
    simp
  · obtain rfl := h'.eq_nil_of_spell h.braceFirst hs
    simp

/-! ## The first argument beyond the others -/

/-- The index of an argument beyond the first `n`. -/
def Meaning.beyond? (n : Nat) : Meaning → Option Nat
  | char _ => none
  | argument i => if i < n then none else some i

theorem Part.findSome?_beyond? (n : Nat) (parts : List Part) :
    parts.findSome? (beyond? n) = (parts.flatMap meanings).findSome? (Meaning.beyond? n) := by
  induction parts with
  | nil => rfl
  | cons part parts ih =>
    rw [List.findSome?_cons, List.flatMap_cons, List.findSome?_append, ← ih]
    cases part with
    | literal text =>
      have hnone : (text.map Meaning.char).findSome? (Meaning.beyond? n) = none := by
        simp [List.findSome?_eq_none_iff, Meaning.beyond?]
      simp [beyond?, meanings, hnone]
    | arg i => by_cases hi : i < n <;> simp [beyond?, meanings, Meaning.beyond?, hi]

theorem Meaning.beyond?_eq_none_iff {n : Nat} {meanings : List Meaning} :
    (∀ meaning ∈ meanings, meaning.beyond? n = none) ↔ Within n meanings := by
  constructor
  · intro h i hi
    simpa [beyond?] using h _ hi
  · intro h meaning hmem
    cases meaning with
    | char c => rfl
    | argument i => simpa [beyond?] using h i hmem

/-- The first argument beyond the first `n` stands behind others that are not. -/
theorem Meaning.findSome?_beyond?_eq_some_iff {n i : Nat} {meanings : List Meaning} :
    meanings.findSome? (beyond? n) = some i ↔
      ∃ before after, meanings = before ++ .argument i :: after ∧ Within n before ∧ n ≤ i := by
  rw [List.findSome?_eq_some_iff]
  constructor
  · rintro ⟨before, meaning, after, rfl, hsome, hnone⟩
    cases meaning with
    | char c => cases hsome
    | argument j =>
      by_cases hj : j < n
      · simp [beyond?, hj] at hsome
      · have hi : j = i := by simpa [beyond?, hj] using hsome
        subst hi
        exact ⟨before, after, rfl, beyond?_eq_none_iff.1 hnone, Nat.not_lt.1 hj⟩
  · rintro ⟨before, after, rfl, hwithin, hi⟩
    exact ⟨before, .argument i, after, rfl, by simp [beyond?, hi],
      beyond?_eq_none_iff.2 hwithin⟩

/-! ## The two errors -/

theorem parse_of_scan_error {n : Nat} {source : String} {fault : Fault}
    (h : Part.scan source.toList = .error fault) :
    parse n source = .error (.invalid source fault) := by
  unfold parse
  split
  · next fault' h' => rw [Except.error.inj (h'.symm.trans h)]
  · next parts h' => cases h'.symm.trans h

theorem parse_eq_mismatch_of_scan {n m i : Nat} {source s : String} {parts : List Part}
    (h : Part.scan source.toList = .ok parts) : parse n source = .error (.mismatch s m i) ↔
      s = source ∧ m = n ∧ parts.findSome? (Part.beyond? n) = some i := by
  unfold parse
  split
  · next fault h' => cases h'.symm.trans h
  · next parts' h' =>
    obtain rfl := Except.ok.inj (h'.symm.trans h)
    split
    · next index hbeyond =>
      rw [hbeyond]
      simp [eq_comm]
    · next hbeyond => simp [hbeyond]

/-- Where the text stops being tokens, the fault that stands there is the error. -/
theorem parse_of_stopsAt {source : String} {before rest : List Char} {fault : Fault}
    (h : StopsAt source.toList before rest) (hf : FaultAt rest fault) (n : Nat) :
    parse n source = .error (.invalid source fault) := by
  obtain ⟨tokens, hs⟩ := h.spelled
  refine parse_of_scan_error ?_
  rw [Part.scan, h.split, Token.read_of_spell_faultAt hs hf]
  rfl

/-- A text that is made of tokens has an error when one of them asks for too much: the first that
does is reported. -/
theorem parse_eq_mismatch_iff {n m i : Nat} {source s : String} :
    parse n source = .error (.mismatch s m i) ↔
      s = source ∧ m = n ∧ ∃ tokens before after, Spell tokens source.toList ∧
        Token.meanings tokens = before ++ .argument i :: after ∧ Meaning.Within n before ∧
          n ≤ i := by
  by_cases hspell : ∃ tokens, Spell tokens source.toList
  · obtain ⟨tokens, hs⟩ := hspell
    rw [parse_eq_mismatch_of_scan (Part.scan_of_spell hs), Part.findSome?_beyond?,
      Part.flatMap_meanings_of_tokens, Meaning.findSome?_beyond?_eq_some_iff]
    constructor
    · rintro ⟨hsource, hm, before, after, hfirst⟩
      exact ⟨hsource, hm, tokens, before, after, hs, hfirst⟩
    · rintro ⟨hsource, hm, tokens', before, after, hs', hfirst⟩
      obtain rfl := hs.unique hs'
      exact ⟨hsource, hm, before, after, hfirst⟩
  · obtain ⟨before, rest, hstops⟩ := exists_stopsAt hspell
    obtain ⟨fault, hf⟩ := hstops.exists_faultAt
    rw [parse_of_stopsAt hstops hf]
    constructor
    · intro h
      cases h
    · rintro ⟨-, -, tokens, -, -, hs, -⟩
      exact absurd ⟨tokens, hs⟩ hspell

theorem exists_parse_eq_mismatch_iff {n : Nat} {source : String} :
    (∃ s m i, parse n source = .error (.mismatch s m i)) ↔
      ∃ tokens, Spell tokens source.toList ∧ ¬ Meaning.Within n (Token.meanings tokens) := by
  simp only [parse_eq_mismatch_iff]
  constructor
  · rintro ⟨s, m, i, -, -, tokens, before, after, hs, hfirst, -, hi⟩
    refine ⟨tokens, hs, fun hwithin => ?_⟩
    have hlt : i < n := hwithin i (by simp [hfirst])
    omega
  · rintro ⟨tokens, hs, hwithin⟩
    cases hfirst : (Token.meanings tokens).findSome? (Meaning.beyond? n) with
    | none =>
      rw [List.findSome?_eq_none_iff] at hfirst
      exact absurd (Meaning.beyond?_eq_none_iff.1 hfirst) hwithin
    | some i =>
      obtain ⟨before, after, hsplit, hbefore, hi⟩ :=
        Meaning.findSome?_beyond?_eq_some_iff.1 hfirst
      exact ⟨source, n, i, rfl, rfl, tokens, before, after, hs, hsplit, hbefore, hi⟩

/-- **The leftmost fault is the error of a text that is not made of tokens**, for every number of
arguments. A text that is made of tokens has an error just when it asks for too many, and the first
argument too many is reported. -/
theorem parse_reports_leftmost (source : String) :
    ((¬ ∃ tokens, Spell tokens source.toList) ↔
      ∃ before rest, StopsAt source.toList before rest) ∧
    (∀ before rest before' rest', StopsAt source.toList before rest →
      StopsAt source.toList before' rest' → before = before' ∧ rest = rest') ∧
    (∀ before rest, StopsAt source.toList before rest →
      ∃ fault, (∀ fault', FaultAt rest fault' ↔ fault' = fault) ∧
        ∀ n, parse n source = .error (.invalid source fault)) ∧
    (∀ n s m i, parse n source = .error (.mismatch s m i) ↔
      s = source ∧ m = n ∧ ∃ tokens before after, Spell tokens source.toList ∧
        Token.meanings tokens = before ++ .argument i :: after ∧ Meaning.Within n before ∧
          n ≤ i) ∧
    (∀ n, (∃ s m i, parse n source = .error (.mismatch s m i)) ↔
      ∃ tokens, Spell tokens source.toList ∧ ¬ Meaning.Within n (Token.meanings tokens)) ∧
    Fault.unmatched.message = "unmatched '\x7d'" ∧
    Fault.unclosed.message = "unclosed '\x7b'" ∧
    (∀ c, (Fault.unexpected c).message = "unexpected '" ++ c.toString ++ "' inside placeholder") ∧
    Fault.empty.message = "empty placeholder '\x7b\x7d'" ∧
    Fault.tooLarge.message =
      "bad placeholder index: number too large to fit in target type" := by
  refine ⟨⟨exists_stopsAt, ?stops⟩, fun _ _ _ _ h h' => h.unique h', ?fault,
    fun _ _ _ _ => parse_eq_mismatch_iff, fun _ => exists_parse_eq_mismatch_iff, rfl, rfl,
    fun _ => rfl, rfl, rfl⟩
  case stops =>
    rintro ⟨before, rest, h⟩
    exact not_spell_of_stopsAt h
  case fault =>
    intro before rest h
    obtain ⟨fault, hf⟩ := h.exists_faultAt
    refine ⟨fault, fun fault' => ⟨fun hf' => hf'.unique hf, ?_⟩, parse_of_stopsAt h hf⟩
    rintro rfl
    exact hf

/-- A fault behind an argument too many and a percent sign, and arguments too many in a text
without a fault. -/
theorem parse_reports_leftmost_of_two :
    parse 1 "\x7b9\x7d%\x7b07\x7b\x7d" =
        .error (.invalid "\x7b9\x7d%\x7b07\x7b\x7d" (.unexpected '\x7b')) ∧
      parse 1 "%s\x7b05\x7d%d\x7b7\x7d" = .error (.mismatch "%s\x7b05\x7d%d\x7b7\x7d" 1 5) := by
  constructor
  · have hspell : Spell [.indexed ['9'], .barePercent] ['{', '9', '}', '%'] :=
      Token.spell_of_read rfl
    have hdrop : ['0', '7', '{', '}'].dropWhile Char.isDigit = ['{', '}'] := rfl
    have hfault : FaultAt ['{', '0', '7', '{', '}'] (.unexpected '{') :=
      .unexpected (by decide) hdrop (by decide)
    have hstops : StopsAt "\x7b9\x7d%\x7b07\x7b\x7d".toList ['{', '9', '}', '%']
        ['{', '0', '7', '{', '}'] :=
      ⟨by decide +kernel, ⟨_, hspell⟩, by decide, hfault.not_readable⟩
    obtain ⟨fault, honly, hparse⟩ := (parse_reports_leftmost _).2.2.1 _ _ hstops
    obtain rfl := (honly _).1 hfault
    exact hparse 1
  · have hspell : Spell [.next .text, .indexed ['0', '5'], .next .decimal, .indexed ['7']]
        "%s\x7b05\x7d%d\x7b7\x7d".toList := Token.spell_of_read (by decide +kernel)
    refine ((parse_reports_leftmost _).2.2.2.1 1 _ 1 5).2 ⟨rfl, rfl, _, [.argument 0],
      [.argument 1, .argument 7], hspell, rfl, ?_, by decide⟩
    simp [Meaning.Within]

end QuerySnippet.Template
