/-
The grammar of a template's text, apart from the way it is read.

`Token.Spell tokens cs` says that the characters `cs` are the tokens, one
written after the other. Only a bare percent sign minds what follows it: the
two must not look like one of the longer forms. `FaultAt cs fault` says why no
token can be read where `cs` begins. One of three things holds of any text: it
is empty, it begins with a token, or it begins with a fault (`cases_of_text`).
So a text is made of tokens or has a fault behind the tokens it begins with
(`spell_or_faultAt`). `read_eq_ok_iff`: reading finds tokens exactly when the
text has them, and those; so a text has at most one row of tokens.
-/
import Mathlib.Data.List.TakeWhile
import QuerySnippet.Proofs.Outcome
import QuerySnippet.Template.Basic

namespace QuerySnippet.Template.Token

/-- What the grammar asks of a token by itself. -/
def Legal : Token → Prop
  | plain c => c ≠ '{' ∧ c ≠ '}' ∧ c ≠ '%'
  | indexed digits => digits ≠ [] ∧ (∀ d ∈ digits, d.isDigit) ∧ index digits < UInt64.size
  | _ => True

/-- What the grammar asks of the text behind a token. -/
def MayPrecede : Token → List Char → Prop
  | barePercent, c :: _ => c ≠ '%' ∧ c ≠ 's' ∧ c ≠ 'd'
  | _, _ => True

/-- The text is the tokens one after the other. -/
inductive Spell : List Token → List Char → Prop
  | nil : Spell [] []
  | cons {token tokens cs} : token.Legal → token.MayPrecede cs → Spell tokens cs →
      Spell (token :: tokens) (token.spelling ++ cs)

/-- Tokens other than a bare percent sign may stand in any order. -/
theorem spell_flatMap_spelling : ∀ {tokens : List Token},
    (∀ token ∈ tokens, token.Legal ∧ token ≠ barePercent) →
      Spell tokens (tokens.flatMap spelling)
  | [], _ => .nil
  | token :: tokens, h => by
    obtain ⟨hlegal, hbare⟩ := h token List.mem_cons_self
    have hprecede : token.MayPrecede (tokens.flatMap spelling) := by
      cases token with
      | barePercent => exact absurd rfl hbare
      | _ => trivial
    exact .cons hlegal hprecede (spell_flatMap_spelling fun t ht => h t (List.mem_cons_of_mem _ ht))

theorem length_spelling_pos (token : Token) : 0 < token.spelling.length := by
  cases token <;> simp [spelling]

/-! ## Where a text begins with a token, and where it does not -/

/-- The text begins with a token. -/
def Readable (cs : List Char) : Prop :=
  ∃ (token : Token) (rest : List Char),
    token.Legal ∧ token.MayPrecede rest ∧ cs = token.spelling ++ rest

/-- Why the text does not begin with a token. A `}` has no second one behind it. A `{` has no
second one either, and behind the longest run of digits after it there is nothing or another
character than `}`, or the digits before the `}` are none or too large. -/
inductive FaultAt : List Char → Fault → Prop
  | unmatched {cs} : cs.head? ≠ some '}' → FaultAt ('}' :: cs) .unmatched
  | unclosed {cs} : cs.dropWhile Char.isDigit = [] → FaultAt ('{' :: cs) .unclosed
  | unexpected {cs c rest} : cs.head? ≠ some '{' → cs.dropWhile Char.isDigit = c :: rest →
      c ≠ '}' → FaultAt ('{' :: cs) (.unexpected c)
  | empty {cs} : FaultAt ('{' :: '}' :: cs) .empty
  | tooLarge {cs rest} : cs.takeWhile Char.isDigit ≠ [] →
      cs.dropWhile Char.isDigit = '}' :: rest → UInt64.size ≤ index (cs.takeWhile Char.isDigit) →
      FaultAt ('{' :: cs) .tooLarge

/-- The digits before another character are the longest run. -/
theorem takeWhile_dropWhile_digits {digits : List Char} {c : Char} (rest : List Char)
    (hd : ∀ d ∈ digits, d.isDigit) (hc : c.isDigit = false) :
    (digits ++ c :: rest).takeWhile Char.isDigit = digits ∧
      (digits ++ c :: rest).dropWhile Char.isDigit = c :: rest := by
  rw [List.takeWhile_append_of_pos hd, List.dropWhile_append_of_pos hd]
  simp [hc]

theorem readable_open_iff {cs : List Char} : Readable ('{' :: cs) ↔
    (∃ rest, cs = '{' :: rest) ∨
      ∃ rest, cs.takeWhile Char.isDigit ≠ [] ∧ cs.dropWhile Char.isDigit = '}' :: rest ∧
        index (cs.takeWhile Char.isDigit) < UInt64.size := by
  constructor
  · rintro ⟨token, rest, hl, -, hcs⟩
    cases token with
    | plain c => exact absurd (List.cons.inj hcs).1.symm hl.1
    | openBrace => exact .inl ⟨rest, (List.cons.inj hcs).2⟩
    | indexed digits =>
      obtain ⟨hne, hdigits, hlt⟩ := hl
      have hrest : cs = digits ++ '}' :: rest := by simpa [spelling] using hcs
      obtain ⟨htake, hdrop⟩ := takeWhile_dropWhile_digits rest hdigits
        (show Char.isDigit '}' = false by decide)
      rw [← hrest] at htake hdrop
      exact .inr ⟨rest, by rwa [htake], hdrop, by rwa [htake]⟩
    | closeBrace | percent | barePercent | next => simp [spelling] at hcs
  · rintro (⟨rest, rfl⟩ | ⟨rest, hne, hdrop, hlt⟩)
    · exact ⟨openBrace, rest, trivial, trivial, rfl⟩
    · refine ⟨indexed (cs.takeWhile Char.isDigit), rest,
        ⟨hne, fun d hd => List.mem_takeWhile_imp hd, hlt⟩, trivial, ?_⟩
      have hcs : cs.takeWhile Char.isDigit ++ '}' :: rest = cs := by
        rw [← hdrop, List.takeWhile_append_dropWhile]
      simp [spelling, hcs]

theorem readable_close_iff {cs : List Char} : Readable ('}' :: cs) ↔ ∃ rest, cs = '}' :: rest := by
  constructor
  · rintro ⟨token, rest, hl, -, hcs⟩
    cases token with
    | plain c => exact absurd (List.cons.inj hcs).1.symm hl.2.1
    | closeBrace => exact ⟨rest, (List.cons.inj hcs).2⟩
    | openBrace | percent | barePercent | indexed | next => simp [spelling] at hcs
  · rintro ⟨rest, rfl⟩
    exact ⟨closeBrace, rest, trivial, trivial, rfl⟩

theorem readable_percent (cs : List Char) : Readable ('%' :: cs) := by
  cases cs with
  | nil => exact ⟨barePercent, [], trivial, trivial, rfl⟩
  | cons c cs =>
    by_cases hpercent : c = '%'
    · subst hpercent
      exact ⟨percent, cs, trivial, trivial, rfl⟩
    by_cases htext : c = 's'
    · subst htext
      exact ⟨next .text, cs, trivial, trivial, rfl⟩
    by_cases hdecimal : c = 'd'
    · subst hdecimal
      exact ⟨next .decimal, cs, trivial, trivial, rfl⟩
    exact ⟨barePercent, c :: cs, trivial, ⟨hpercent, htext, hdecimal⟩, rfl⟩

/-- Nothing is both a token and a fault. -/
theorem FaultAt.not_readable {cs : List Char} {fault : Fault} (h : FaultAt cs fault) :
    ¬ Readable cs := by
  cases h with
  | unmatched hhead =>
    rw [readable_close_iff]
    rintro ⟨rest, rfl⟩
    exact hhead rfl
  | unclosed hdrop =>
    rw [readable_open_iff]
    rintro (⟨rest, rfl⟩ | ⟨rest, -, hdrop', -⟩)
    · simp at hdrop
    · simp [hdrop] at hdrop'
  | unexpected hhead hdrop hne =>
    rw [readable_open_iff]
    rintro (⟨rest, rfl⟩ | ⟨rest, -, hdrop', -⟩)
    · exact hhead rfl
    · rw [hdrop] at hdrop'
      exact hne (List.cons.inj hdrop').1
  | empty =>
    rw [readable_open_iff]
    rintro (⟨rest, hrest⟩ | ⟨rest, hne, -, -⟩)
    · cases hrest
    · simp at hne
  | tooLarge hne _ hle =>
    rw [readable_open_iff]
    rintro (⟨rest, rfl⟩ | ⟨rest, -, -, hlt⟩)
    · simp at hne
    · omega

/-- The first character of a fault is a brace. -/
theorem FaultAt.exists_brace {cs : List Char} {fault : Fault} (h : FaultAt cs fault) :
    ∃ c rest, cs = c :: rest ∧ (c = '{' ∨ c = '}') := by
  cases h <;> simp

theorem open_cases (cs : List Char) :
    Readable ('{' :: cs) ∨ ∃ fault, FaultAt ('{' :: cs) fault := by
  by_cases hhead : cs.head? = some '{'
  · obtain ⟨rest, rfl⟩ := List.head?_eq_some_iff.1 hhead
    exact .inl (readable_open_iff.2 (.inl ⟨rest, rfl⟩))
  cases hdrop : cs.dropWhile Char.isDigit with
  | nil => exact .inr ⟨_, .unclosed hdrop⟩
  | cons c rest =>
    by_cases hc : c = '}'
    · subst hc
      by_cases hnone : cs.takeWhile Char.isDigit = []
      · have hcs : cs = '}' :: rest := by
          rw [← List.takeWhile_append_dropWhile (p := Char.isDigit) (l := cs), hnone, hdrop]
          rfl
        subst hcs
        exact .inr ⟨.empty, .empty⟩
      by_cases hlt : index (cs.takeWhile Char.isDigit) < UInt64.size
      · exact .inl (readable_open_iff.2 (.inr ⟨rest, hnone, hdrop, hlt⟩))
      · exact .inr ⟨_, .tooLarge hnone hdrop (by omega)⟩
    · exact .inr ⟨_, .unexpected hhead hdrop hc⟩

/-- A text is empty, begins with a token or begins with a fault. -/
theorem cases_of_text (cs : List Char) :
    cs = [] ∨ Readable cs ∨ ∃ fault, FaultAt cs fault := by
  cases cs with
  | nil => exact .inl rfl
  | cons c cs =>
    right
    by_cases hopen : c = '{'
    · subst hopen
      exact open_cases cs
    by_cases hclose : c = '}'
    · subst hclose
      by_cases hhead : cs.head? = some '}'
      · obtain ⟨rest, rfl⟩ := List.head?_eq_some_iff.1 hhead
        exact .inl (readable_close_iff.2 ⟨rest, rfl⟩)
      · exact .inr ⟨_, .unmatched hhead⟩
    by_cases hpercent : c = '%'
    · subst hpercent
      exact .inl (readable_percent cs)
    exact .inl ⟨plain c, cs, ⟨hopen, hclose, hpercent⟩, trivial, rfl⟩

/-! ## Reading goes token by token -/

/-- Inside a placeholder the digits that come first are read first. -/
theorem readIndex_append (reversed : List Char) : ∀ {digits : List Char} (rest : List Char),
    (∀ d ∈ digits, d.isDigit) →
      readIndex reversed (digits ++ rest) = readIndex (digits.reverse ++ reversed) rest
  | [], _, _ => rfl
  | d :: digits, rest, h => by
    have hd : d.isDigit = true := h d (by simp)
    have hne : d ≠ '}' := by rintro rfl; simp [Char.isDigit] at hd
    rw [List.cons_append, readIndex.eq_3 _ _ _ hne, if_pos hd,
      readIndex_append _ _ fun d' h' => h d' (by simp [h'])]
    simp

/-- Behind a brace that is alone the longest run of digits is read. -/
theorem read_open {cs : List Char} (h : cs.head? ≠ some '{') :
    read ('{' :: cs) =
      readIndex (cs.takeWhile Char.isDigit).reverse (cs.dropWhile Char.isDigit) := by
  have hopen : read ('{' :: cs) = readIndex [] cs :=
    read.eq_3 cs fun rest he => h (by rw [he]; rfl)
  have hdigits : ∀ d ∈ cs.takeWhile Char.isDigit, d.isDigit := fun d hd =>
    List.mem_takeWhile_imp hd
  rw [hopen]
  conv_lhs => rw [← List.takeWhile_append_dropWhile (p := Char.isDigit) (l := cs)]
  rw [readIndex_append [] _ hdigits, List.append_nil]

theorem ofDigits_of_index {digits : List Char} (hne : digits ≠ [])
    (hlt : index digits < UInt64.size) : ofDigits digits.reverse = .ok (indexed digits) := by
  have hlimit : index digits < indexLimit := hlt
  simp [ofDigits, hne, hlimit]

theorem ofDigits_of_tooLarge {digits : List Char} (hne : digits ≠ [])
    (hle : UInt64.size ≤ index digits) : ofDigits digits.reverse = .error .tooLarge := by
  have hlimit : ¬ index digits < indexLimit := Nat.not_lt.2 hle
  simp [ofDigits, hne, hlimit]

theorem read_indexed {digits : List Char} (hl : (indexed digits).Legal) (rest : List Char) :
    read ((indexed digits).spelling ++ rest) = (indexed digits :: ·) <$> read rest := by
  obtain ⟨hne, hall, hlt⟩ := hl
  obtain ⟨htake, hdrop⟩ := takeWhile_dropWhile_digits rest hall
    (show Char.isDigit '}' = false by decide)
  have hhead : (digits ++ '}' :: rest).head? ≠ some '{' := by
    obtain ⟨d, digits, rfl⟩ := List.exists_cons_of_ne_nil hne
    rintro hd
    cases hd
    exact absurd (hall '{' List.mem_cons_self) (by decide)
  calc read ((indexed digits).spelling ++ rest)
      = read ('{' :: (digits ++ '}' :: rest)) := by simp [spelling]
    _ = readIndex digits.reverse ('}' :: rest) := by rw [read_open hhead, htake, hdrop]
    _ = (indexed digits :: ·) <$> read rest := by
      rw [readIndex, ofDigits_of_index hne hlt]
      rfl

/-- A token that begins the text is read first. -/
theorem read_spelling_append {token : Token} {cs : List Char} (hl : token.Legal)
    (hp : token.MayPrecede cs) : read (token.spelling ++ cs) = (token :: ·) <$> read cs := by
  cases token with
  | plain c =>
    obtain ⟨h1, h2, h3⟩ := hl
    exact read.eq_10 c cs (fun _ h => absurd h h1) h1 (fun _ h => absurd h h2) h2
      (fun _ h => absurd h h3) (fun _ h => absurd h h3) (fun _ h => absurd h h3) h3
  | openBrace => simp only [spelling, List.cons_append, List.nil_append, read]
  | closeBrace => simp only [spelling, List.cons_append, List.nil_append, read]
  | percent => simp only [spelling, List.cons_append, List.nil_append, read]
  | barePercent =>
    refine read.eq_9 cs ?_ ?_ ?_ <;> rintro rest rfl
    · exact hp.1 rfl
    · exact hp.2.1 rfl
    · exact hp.2.2 rfl
  | indexed digits => exact read_indexed hl cs
  | next k => cases k <;>
      simp only [spelling, Conversion.letter, List.cons_append, List.nil_append, read]

/-- A fault that begins the text is reported. -/
theorem read_of_faultAt {cs : List Char} {fault : Fault} (h : FaultAt cs fault) :
    read cs = .error fault := by
  cases h with
  | @unmatched cs hhead => exact read.eq_5 cs fun rest he => hhead (by rw [he]; rfl)
  | @unclosed cs hdrop =>
    have hhead : cs.head? ≠ some '{' := by
      intro hhead
      obtain ⟨rest, rfl⟩ := List.head?_eq_some_iff.1 hhead
      simp at hdrop
    rw [read_open hhead, hdrop, readIndex]
  | @unexpected cs c rest hhead hdrop hne =>
    have hc : c.isDigit = false := by
      have := List.head?_dropWhile_not Char.isDigit cs
      simpa [hdrop] using this
    rw [read_open hhead, hdrop, readIndex.eq_3 _ _ _ hne, hc]
    rfl
  | empty => rfl
  | @tooLarge cs rest hne hdrop hle =>
    have hhead : cs.head? ≠ some '{' := by
      intro hhead
      obtain ⟨rest, rfl⟩ := List.head?_eq_some_iff.1 hhead
      simp at hne
    rw [read_open hhead, hdrop, readIndex, ofDigits_of_tooLarge hne hle]
    rfl

/-- A text begins with one fault at most. -/
theorem FaultAt.unique {cs : List Char} {fault fault' : Fault} (h : FaultAt cs fault)
    (h' : FaultAt cs fault') : fault = fault' :=
  Except.error.inj ((read_of_faultAt h).symm.trans (read_of_faultAt h'))

/-! ## Reading finds the tokens of the grammar -/

/-- The rest begins with a brace, or there is none. A token minds a brace no more than the end. -/
def BraceFirst (rest : List Char) : Prop := ∀ c ∈ rest.head?, c = '{' ∨ c = '}'

/-- A token minds no more of a text than the character right behind it. -/
theorem mayPrecede_append_of_ne_nil {token : Token} {cs : List Char} (h : cs ≠ [])
    (rest : List Char) : token.MayPrecede (cs ++ rest) ↔ token.MayPrecede cs := by
  obtain ⟨c, cs, rfl⟩ := List.exists_cons_of_ne_nil h
  cases token <;> simp [MayPrecede]

theorem mayPrecede_append_iff {token : Token} {cs rest : List Char} (h : BraceFirst rest) :
    token.MayPrecede (cs ++ rest) ↔ token.MayPrecede cs := by
  by_cases hcs : cs = []
  · subst hcs
    cases rest with
    | nil => rfl
    | cons c rest =>
      have hc : c = '{' ∨ c = '}' := h c rfl
      rcases hc with rfl | rfl <;> cases token <;> simp [MayPrecede]
  · exact mayPrecede_append_of_ne_nil hcs rest

/-- Tokens that begin a text are read first, up to a brace. -/
theorem read_append_of_spell {tokens : List Token} {cs rest : List Char} (h : Spell tokens cs)
    (hr : BraceFirst rest) : read (cs ++ rest) = (tokens ++ ·) <$> read rest := by
  induction h with
  | nil => simp
  | @cons token tokens cs hl hp _ ih =>
    rw [List.append_assoc, read_spelling_append hl ((mayPrecede_append_iff hr).2 hp), ih,
      Functor.map_map]
    rfl

theorem read_of_spell {tokens : List Token} {cs : List Char} (h : Spell tokens cs) :
    read cs = .ok tokens := by
  have hnone : BraceFirst [] := nofun
  have hread : read (cs ++ []) = (tokens ++ ·) <$> read [] := read_append_of_spell h hnone
  simpa [read, Functor.map, Except.map] using hread

/-- A text is made of tokens, or a fault stands behind the tokens it begins with. The induction is
on the length: a placeholder takes any number of characters at once. -/
theorem spell_or_faultAt (cs : List Char) : (∃ tokens, Spell tokens cs) ∨
    ∃ before rest tokens fault, cs = before ++ rest ∧ Spell tokens before ∧ FaultAt rest fault := by
  induction hn : cs.length using Nat.strongRecOn generalizing cs with
  | ind n ih =>
    subst hn
    rcases cases_of_text cs with rfl | ⟨token, rest, hl, hp, rfl⟩ | ⟨fault, hf⟩
    · exact .inl ⟨[], .nil⟩
    · have hlt : rest.length < (token.spelling ++ rest).length := by
        have := length_spelling_pos token
        rw [List.length_append]
        omega
      rcases ih _ hlt rest rfl with ⟨tokens, hs⟩ | ⟨before, after, tokens, fault, rfl, hs, hf⟩
      · exact .inl ⟨token :: tokens, .cons hl hp hs⟩
      · obtain ⟨c, after', rfl, hc⟩ := hf.exists_brace
        have hbrace : BraceFirst (c :: after') := by simpa [BraceFirst] using hc
        refine .inr ⟨token.spelling ++ before, c :: after', token :: tokens, fault, ?_, ?_, hf⟩
        · rw [List.append_assoc]
        · exact .cons hl ((mayPrecede_append_iff hbrace).1 hp) hs
    · exact .inr ⟨[], cs, [], fault, rfl, .nil, hf⟩

/-- A fault behind tokens is reported. -/
theorem read_of_spell_faultAt {before rest : List Char} {tokens : List Token} {fault : Fault}
    (hs : Spell tokens before) (hf : FaultAt rest fault) :
    read (before ++ rest) = .error fault := by
  obtain ⟨c, rest', rfl, hc⟩ := hf.exists_brace
  rw [read_append_of_spell hs (by simpa [BraceFirst] using hc), read_of_faultAt hf]
  rfl

theorem spell_of_read {cs : List Char} {tokens : List Token} (h : read cs = .ok tokens) :
    Spell tokens cs := by
  rcases spell_or_faultAt cs with ⟨tokens', hs⟩ | ⟨before, rest, tokens', fault, rfl, hs, hf⟩
  · obtain rfl := Except.ok.inj ((read_of_spell hs).symm.trans h)
    exact hs
  · rw [read_of_spell_faultAt hs hf] at h
    cases h

/-- Reading finds tokens exactly when the text is made of them. -/
theorem read_eq_ok_iff {cs : List Char} {tokens : List Token} :
    read cs = .ok tokens ↔ Spell tokens cs :=
  ⟨spell_of_read, read_of_spell⟩

/-- No text is made of tokens in two ways. -/
theorem Spell.unique {s t : List Token} {cs : List Char} (hs : Spell s cs) (ht : Spell t cs) :
    s = t :=
  Except.ok.inj ((read_of_spell hs).symm.trans (read_of_spell ht))

end QuerySnippet.Template.Token
