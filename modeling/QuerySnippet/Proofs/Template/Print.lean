/-
Writing a template that says given pieces, and reading it again.

A piece is any text or one of the `n` arguments. `Piece.print` writes a text
with every brace and percent sign twice and an argument by its index. No form
that is written minds what stands behind it, so pieces may touch in any way:
they are read as `Piece.parts`, which only puts neighbouring texts into one
literal and leaves empty ones out. For the parts of a template, which are in
normal form, there is nothing of that kind to do. `parse_print` puts the two
directions together.
-/
import Mathlib.Order.Nat
import QuerySnippet.Proofs.Template.Canonical
import QuerySnippet.Proofs.Template.Meaning

namespace QuerySnippet.Template

/-- A piece of a template for `n` arguments. -/
inductive Piece (n : Nat) where
  | text (s : String)
  | argument (index : Fin n)
deriving DecidableEq, Repr

namespace Piece

variable {n : Nat}

/-- How a character of a text is written. -/
def doubled (c : Char) : List Char := if c = '{' ∨ c = '}' ∨ c = '%' then [c, c] else [c]

/-- How a piece is written. -/
def written : Piece n → List Char
  | text s => s.toList.flatMap doubled
  | argument i => '{' :: Nat.toDigits 10 i ++ ['}']

/-- The template text of pieces. -/
def print (pieces : List (Piece n)) : String := String.ofList (pieces.flatMap written)

/-- What a piece says when `args` are the arguments. -/
def content (args : Fin n → String) : Piece n → String
  | text s => s
  | argument i => args i

/-- The index of an argument. -/
def index? : Piece n → Option Nat
  | text _ => none
  | argument i => some i

/-- The largest index among the arguments. -/
def largest? (pieces : List (Piece n)) : Option Nat := (pieces.filterMap index?).max?

/-- The piece that a part is. -/
def ofPart : (part : Part) → part.FitsIn n → Piece n
  | .literal cs, _ => text (String.ofList cs)
  | .arg i, h => argument ⟨i, h⟩

/-! ## The tokens of what is written -/

/-- The token that a character of a text is written as. -/
def charToken (c : Char) : Token :=
  if c = '{' then .openBrace else if c = '}' then .closeBrace else if c = '%' then .percent
  else .plain c

/-- The tokens that a piece is written as. -/
def tokens : Piece n → List Token
  | text s => s.toList.map charToken
  | argument i => [.indexed (Nat.toDigits 10 i)]

theorem spelling_charToken (c : Char) : (charToken c).spelling = doubled c := by
  unfold charToken doubled
  split_ifs <;> simp_all [Token.spelling]

theorem flatMap_spelling_tokens (piece : Piece n) :
    piece.tokens.flatMap Token.spelling = piece.written := by
  cases piece with
  | text s => simp [tokens, written, List.flatMap_map, spelling_charToken]
  | argument i => simp [tokens, written, Token.spelling]

theorem legal_charToken (c : Char) : (charToken c).Legal := by
  unfold charToken
  split_ifs <;> simp_all [Token.Legal]

theorem charToken_ne_barePercent (c : Char) : charToken c ≠ .barePercent := by
  unfold charToken
  split_ifs <;> simp

/-- Every index is a word when there are no more arguments than words. -/
theorem legal_of_mem_tokens (hn : n ≤ UInt64.size) {piece : Piece n} {token : Token}
    (h : token ∈ piece.tokens) : token.Legal ∧ token ≠ .barePercent := by
  cases piece with
  | text s =>
    obtain ⟨c, -, rfl⟩ := List.mem_map.1 h
    exact ⟨legal_charToken c, charToken_ne_barePercent c⟩
  | argument i =>
    obtain rfl := List.mem_singleton.1 h
    have hvalue : index (Nat.toDigits 10 i) = i := Nat.ofDigitChars_toDigits (by decide) (by decide)
    have hdigits : ∀ d ∈ Nat.toDigits 10 i, d.isDigit := fun d hd =>
      Nat.isDigit_of_mem_toDigits (by decide) (by decide) hd
    refine ⟨⟨Nat.toDigits_ne_nil, hdigits, ?_⟩, by simp⟩
    rw [hvalue]
    exact Nat.lt_of_lt_of_le i.isLt hn

/-! ## The parts that pieces are read as -/

/-- Puts a piece in front of parts. -/
def consParts : Piece n → List Part → List Part
  | text s, parts => s.toList.foldr Part.consChar parts
  | argument i, parts => .arg i :: parts

/-- The parts that pieces come to. -/
def parts (pieces : List (Piece n)) : List Part := pieces.foldr consParts []

theorem ofTokens_map_charToken (taken : Nat) (tokens : List Token) (text : List Char) :
    Part.ofTokens taken (text.map charToken ++ tokens) =
      text.foldr Part.consChar (Part.ofTokens taken tokens) := by
  induction text with
  | nil => rfl
  | cons c text ih =>
    rw [List.map_cons, List.cons_append, List.foldr_cons, ← ih]
    unfold charToken
    split_ifs <;> simp_all [Part.ofTokens]

theorem ofTokens_tokens_append (taken : Nat) (piece : Piece n) (tokens : List Token) :
    Part.ofTokens taken (piece.tokens ++ tokens) =
      piece.consParts (Part.ofTokens taken tokens) := by
  cases piece with
  | text s => exact ofTokens_map_charToken taken tokens s.toList
  | argument i =>
    have hvalue : index (Nat.toDigits 10 i) = i := Nat.ofDigitChars_toDigits (by decide) (by decide)
    simp [Piece.tokens, consParts, Part.ofTokens, hvalue]

theorem ofTokens_flatMap_tokens (pieces : List (Piece n)) :
    Part.ofTokens 0 (pieces.flatMap tokens) = parts pieces := by
  induction pieces with
  | nil => rfl
  | cons piece pieces ih =>
    rw [List.flatMap_cons, ofTokens_tokens_append, ih]
    rfl

theorem scan_print (hn : n ≤ UInt64.size) (pieces : List (Piece n)) :
    Part.scan (print pieces).toList = .ok (parts pieces) := by
  have hspell : Token.Spell (pieces.flatMap tokens) (print pieces).toList := by
    have hcs : (print pieces).toList = (pieces.flatMap tokens).flatMap Token.spelling := by
      simp [print, List.flatMap_assoc, flatMap_spelling_tokens]
    rw [hcs]
    refine Token.spell_flatMap_spelling fun token h => ?_
    obtain ⟨piece, -, hmem⟩ := List.mem_flatMap.1 h
    exact legal_of_mem_tokens hn hmem
  rw [Part.scan, Token.read_of_spell hspell, ← ofTokens_flatMap_tokens]
  rfl

/-! ## What the parts say -/

/-- What a piece stands for. -/
def meanings : Piece n → List Meaning
  | text s => s.toList.map .char
  | argument i => [.argument i]

theorem flatMap_meanings_foldr_consChar (parts : List Part) (text : List Char) :
    (text.foldr Part.consChar parts).flatMap Part.meanings =
      text.map .char ++ parts.flatMap Part.meanings := by
  induction text with
  | nil => rfl
  | cons c text ih => simp [Part.flatMap_meanings_consChar, ih]

theorem flatMap_meanings_parts (pieces : List (Piece n)) :
    (parts pieces).flatMap Part.meanings = pieces.flatMap meanings := by
  induction pieces with
  | nil => rfl
  | cons piece pieces ih =>
    rw [List.flatMap_cons, ← ih, parts, List.foldr_cons, ← parts]
    cases piece with
    | text s => exact flatMap_meanings_foldr_consChar _ _
    | argument i => rfl

theorem flatMap_text_meanings (args : Fin n → String) (piece : Piece n) :
    piece.meanings.flatMap (·.text args) = (piece.content args).toList := by
  cases piece with
  | text s => simp [meanings, content, Meaning.text, List.flatMap_map]
  | argument i => simp [meanings, content, Meaning.text]

theorem argument_mem_iff {pieces : List (Piece n)} {i : Nat} :
    Meaning.argument i ∈ pieces.flatMap meanings ↔ i ∈ pieces.filterMap index? := by
  rw [List.mem_flatMap, List.mem_filterMap]
  refine exists_congr fun piece => and_congr_right fun _ => ?_
  cases piece with
  | text s => simp [meanings, index?]
  | argument j => simp [meanings, index?, eq_comm]

theorem within_meanings (pieces : List (Piece n)) :
    Meaning.Within n (pieces.flatMap meanings) := by
  intro i hi
  obtain ⟨piece, -, hpiece⟩ := List.mem_filterMap.1 (argument_mem_iff.1 hi)
  cases piece with
  | text s => cases hpiece
  | argument j => exact Option.some.inj hpiece ▸ j.isLt

/-- What is written is a template whose parts are those that the pieces come to. -/
theorem exists_template_of_print (hn : n ≤ UInt64.size) (pieces : List (Piece n)) :
    ∃ t : Template n, parse n (print pieces) = .ok t ∧ t.parts = parts pieces := by
  have fits : ∀ part ∈ parts pieces, part.FitsIn n := fun part hmem => by
    refine Part.fitsIn_iff.2 fun i hi => within_meanings pieces i ?_
    rw [← flatMap_meanings_parts]
    exact List.mem_flatMap_of_mem hmem hi
  let t : Template n := ⟨print pieces, parts pieces, scan_print hn pieces, fits⟩
  have hsource : parse n (print pieces) = .ok t := parse_source t
  exact ⟨t, hsource, rfl⟩

theorem meanings_of_parts {t : Template n} {pieces : List (Piece n)} (h : t.parts = parts pieces) :
    t.meanings = pieces.flatMap meanings := by
  rw [Template.meanings, h, flatMap_meanings_parts]

theorem render_of_parts {t : Template n} {pieces : List (Piece n)} (h : t.parts = parts pieces)
    (args : Fin n → String) : t.render args = String.join (pieces.map (content args)) := by
  rw [← String.toList_inj, toList_render, meanings_of_parts h]
  simp [List.flatMap_assoc, List.flatMap_map, flatMap_text_meanings]

/-- The largest index is below a number of arguments just when all are. -/
theorem largest?_elim_le_iff {pieces : List (Piece n)} {m : Nat} :
    (largest? pieces).elim 0 (· + 1) ≤ m ↔ Meaning.Within m (pieces.flatMap meanings) := by
  simp only [Meaning.Within, argument_mem_iff, largest?, max?_elim_le_iff]

theorem isLiteral_of_mem_parts_text {s : String} {part : Part}
    (h : part ∈ parts [(text s : Piece n)]) : part.IsLiteral := by
  change part ∈ s.toList.foldr Part.consChar [] at h
  by_cases hs : s.toList = []
  · simp [hs] at h
  · rw [Part.foldr_consChar (by simp [Part.NoLiteralFirst]) hs] at h
    obtain rfl := List.mem_singleton.1 h
    trivial

/-! ## The pieces of parts in normal form -/

/-- Pieces whose parts are already in normal form come to those parts again. -/
theorem parts_pmap_ofPart {ps : List Part} (h : Part.Canonical ps)
    (fits : ∀ part ∈ ps, part.FitsIn n) : parts (ps.pmap ofPart fits) = ps := by
  induction h with
  | nil => rfl
  | @literal cs ps hne hfirst _ ih =>
    rw [List.pmap_cons, parts, List.foldr_cons, ← parts, ih]
    simpa [ofPart, consParts] using Part.foldr_consChar hfirst hne
  | @arg i ps _ ih =>
    rw [List.pmap_cons, parts, List.foldr_cons, ← parts, ih]
    rfl

end Piece

variable {n : Nat}

/-- The pieces that the parts of a template are. -/
def pieces (t : Template n) : List (Piece n) := t.parts.pmap Piece.ofPart t.fits

/-- **A template says what its pieces say, and has its parts again when they are written down.** -/
theorem parse_print (hn : n ≤ UInt64.size) :
    (∀ pieces : List (Piece n), ∃ t, parse n (Piece.print pieces) = .ok t ∧
      t.referencedArgs = (Piece.largest? pieces).elim 0 (· + 1) ∧
      ∀ args, t.render args = String.join (pieces.map (Piece.content args))) ∧
    (∀ t : Template n, ∃ t', parse n (Piece.print t.pieces) = .ok t' ∧ t'.parts = t.parts) ∧
    ∀ s : String, ∃ t : Template n,
      (∀ part ∈ t.parts, part.IsLiteral) ∧ ∀ args, t.render args = s := by
  refine ⟨fun pieces => ?_, fun t => ?_, fun s => ?_⟩
  · obtain ⟨t, hok, hparts⟩ := Piece.exists_template_of_print hn pieces
    refine ⟨t, hok, eq_of_forall_ge_iff fun m => ?_, Piece.render_of_parts hparts⟩
    rw [referencedArgs_le_iff, Piece.meanings_of_parts hparts, Piece.largest?_elim_le_iff]
  · obtain ⟨t', hok, hparts⟩ := Piece.exists_template_of_print hn t.pieces
    refine ⟨t', hok, hparts.trans ?_⟩
    exact Piece.parts_pmap_ofPart (Part.canonical_of_scan t.scan_source) t.fits
  · obtain ⟨t, -, hparts⟩ := Piece.exists_template_of_print hn [.text s]
    refine ⟨t, fun part hmem => Piece.isLiteral_of_mem_parts_text (hparts ▸ hmem), fun args => ?_⟩
    rw [Piece.render_of_parts hparts]
    simp [Piece.content]

/-- Texts that end in what the next piece begins with. -/
theorem parse_print_of_touching_pieces :
    ∃ t : Template 2, parse 2 "\x7d\x7d\x7b1\x7d%%s%%\x7b0\x7d\x7b\x7b" = .ok t ∧
      t.referencedArgs = 2 ∧
      ∀ args : Fin 2 → String, t.render args =
        "\x7d" ++ args 1 ++ "%s%" ++ args 0 ++ "\x7b" := by
  obtain ⟨t, hok, hargs, hrender⟩ := (parse_print (n := 2) (by decide)).1
    [.text "\x7d", .argument 1, .text "%s", .text "%", .argument 0, .text "", .text "\x7b"]
  refine ⟨t, hok, hargs, fun args => ?_⟩
  rw [hrender args, ← String.toList_inj]
  simp [Piece.content]

end QuerySnippet.Template
