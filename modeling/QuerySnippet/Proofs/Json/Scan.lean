/-
What a scanner makes of the characters of a token.

A scanner that has read a word does not know yet that it has, so what it has
found is said by what it does next: it is `Settled` on its tokens when it
would stop with them, and go on behind them at any character that is no part
of a word. `Reads cs tokens`: the characters lead from between tokens to a
scanner settled on these. Readings are put together at the punctuation
(`Reads.append`), and blanks around a reading do not count (`Reads.blanks`).
-/
import QuerySnippet.Proofs.Json.Numeral

namespace QuerySnippet.Json

open Scanner

/-! ## Readings -/

/-- The scanner has found the tokens, whether it has left the last one or not. -/
def Scanner.Settled (s : Scanner) (found : List Token) : Prop :=
  s.finish = some found.reverse ∧ ∀ c, isWordChar c = false → s.step c = begin found c

/-- Between tokens, the characters are read as these tokens. -/
def Reads (cs : List Char) (tokens : List Token) : Prop :=
  ∀ found, ∃ s, cs.foldlM step ⟨.between, found⟩ = some s ∧ s.Settled (tokens.reverse ++ found)

theorem settled_between (found : List Token) : Settled ⟨.between, found⟩ found :=
  ⟨rfl, fun _ _ => rfl⟩

theorem Reads.nil : Reads [] [] := fun found => ⟨_, rfl, settled_between found⟩

theorem begin_punctuation {c : Char} {token : Token} (h : punctuation? c = some token)
    (found : List Token) : begin found c = some ⟨.between, token :: found⟩ ∧
      isWordChar c = false := by
  unfold punctuation? at h
  split at h <;> first | (cases h; exact ⟨rfl, rfl⟩) | cases h

/-- Punctuation ends the token in front of it. -/
theorem Reads.append {cs cs' : List Char} {tokens tokens' : List Token} {c : Char} {token : Token}
    (h : Reads cs tokens) (hc : punctuation? c = some token) (h' : Reads cs' tokens') :
    Reads (cs ++ c :: cs') (tokens ++ token :: tokens') := by
  intro found
  obtain ⟨s, hs, -, hstep⟩ := h found
  obtain ⟨hbegin, hword⟩ := begin_punctuation hc (tokens.reverse ++ found)
  obtain ⟨s', hs', hsettled⟩ := h' (token :: (tokens.reverse ++ found))
  refine ⟨s', ?_, by simpa using hsettled⟩
  rw [List.foldlM_append, hs]
  change (c :: cs').foldlM step s = some s'
  rw [List.foldlM_cons, hstep c hword, hbegin]
  exact hs'

theorem isWordChar_of_isBlank {c : Char} (h : isBlank c) : isWordChar c = false := by
  simp only [isBlank, Bool.or_eq_true, beq_iff_eq] at h
  rcases h with ((rfl | rfl) | rfl) | rfl <;> decide

theorem begin_blank {c : Char} (h : isBlank c) (found : List Token) :
    begin found c = some ⟨.between, found⟩ := by
  rw [begin, if_pos h]

theorem foldlM_step_blanks {cs : List Char} (h : Blanks cs) (found : List Token) :
    cs.foldlM step ⟨.between, found⟩ = some ⟨.between, found⟩ := by
  induction cs with
  | nil => rfl
  | cons c cs ih =>
    obtain ⟨hc, hrest⟩ := List.forall_mem_cons.1 h
    rw [List.foldlM_cons]
    change begin found c >>= _ = _
    rw [begin_blank hc]
    exact ih hrest

theorem reads_blanks {cs : List Char} (h : Blanks cs) : Reads cs [] := fun found =>
  ⟨_, foldlM_step_blanks h found, settled_between _⟩

/-- Blanks around a token do not count. -/
theorem Reads.blanks {before cs after : List Char} {tokens : List Token} (hbefore : Blanks before)
    (h : Reads cs tokens) (hafter : Blanks after) : Reads (before ++ cs ++ after) tokens := by
  intro found
  obtain ⟨s, hs, hfinish, hstep⟩ := h found
  rw [List.foldlM_append, List.foldlM_append, foldlM_step_blanks hbefore]
  change ∃ s', (cs.foldlM step ⟨.between, found⟩ >>= fun s => after.foldlM step s) = some s' ∧ _
  rw [hs]
  cases after with
  | nil => exact ⟨s, rfl, hfinish, hstep⟩
  | cons c after =>
    obtain ⟨hc, hrest⟩ := List.forall_mem_cons.1 hafter
    refine ⟨_, ?_, settled_between _⟩
    change (c :: after).foldlM step s = _
    rw [List.foldlM_cons, hstep c (isWordChar_of_isBlank hc), begin_blank hc]
    exact foldlM_step_blanks hrest _

theorem tokens_of_reads {cs : List Char} {ts : List Token} (h : Reads cs ts) :
    tokens cs = some ts := by
  obtain ⟨s, hs, hfinish, -⟩ := h []
  rw [tokens, start, hs]
  simpa using hfinish

/-! ## Words -/

theorem foldlM_step_word : ∀ (cs read : List Char) (found : List Token),
    (∀ c ∈ cs, isWordChar c) →
      cs.foldlM step ⟨.word read, found⟩ = some ⟨.word (cs.reverse ++ read), found⟩
  | [], _, _, _ => rfl
  | c :: cs, read, found, h => by
    have hc : isWordChar c = true := h c (by simp)
    have hrest := foldlM_step_word cs (c :: read) found fun c' h' => h c' (by simp [h'])
    simpa [step, hc] using hrest

theorem begin_word {c : Char} (h : isWordChar c) (found : List Token) :
    begin found c = some ⟨.word [c], found⟩ := by
  have hblank : isBlank c = false := by
    by_contra hb
    rw [isWordChar_of_isBlank (Bool.not_eq_false _ ▸ hb)] at h
    cases h
  have hquote : c ≠ '"' := by
    rintro rfl
    exact absurd h (by decide)
  simp [begin, hblank, hquote, h]

/-- A word is read as what it denotes. -/
theorem reads_word {cs : List Char} {d : Document} (hne : cs ≠ []) (hall : cs.all isWordChar)
    (hd : word? cs = some d) : Reads cs [.word d] := by
  obtain ⟨c, cs, rfl⟩ := List.exists_cons_of_ne_nil hne
  intro found
  rw [List.all_cons, Bool.and_eq_true, List.all_eq_true] at hall
  refine ⟨⟨.word (c :: cs).reverse, found⟩, ?_, ?_, fun c' hc' => ?_⟩
  · have hrest := foldlM_step_word cs [c] found hall.2
    rw [List.foldlM_cons]
    change begin found c >>= _ = _
    rw [begin_word hall.1]
    simpa using hrest
  · simp [finish, hd]
  · simp [step, hc', hd]

/-- A number literal is read as what it denotes. -/
theorem reads_number {cs : List Char} {n : Numeral} (h : Numeral.Spells cs n) :
    Reads cs [.word n.value] :=
  reads_word h.ne_nil (List.all_eq_true.2 h.isWordChar) (word?_of_read (Numeral.read_of_spells h))

/-! ## Texts -/

/-- Inside a text, a piece is read as the grammar has it. -/
theorem foldlM_step_piece {cs : List Char} {piece : Piece} (h : SpellsPiece cs piece)
    (read : List Piece) (found : List Token) :
    cs.foldlM step ⟨.text read, found⟩ = some ⟨.text (piece :: read), found⟩ := by
  cases h with
  | plain hquote hslash hlow => simp [step, hquote, hslash, Nat.not_lt.2 hlow]
  | @escape c plain hc =>
    have hu : c ≠ 'u' := by
      rintro rfl
      cases hc
    simp [step, hu, hc]
  | unit ha hb hc hd => simp [step, ha, hb, hc, hd]

theorem foldlM_step_pieces : ∀ {pieces : List (List Char × Piece)},
    (∀ piece ∈ pieces, SpellsPiece piece.1 piece.2) → ∀ (read : List Piece) (found : List Token),
      (pieces.flatMap Prod.fst).foldlM step ⟨.text read, found⟩ =
        some ⟨.text ((pieces.map Prod.snd).reverse ++ read), found⟩
  | [], _, _, _ => rfl
  | piece :: pieces, h, read, found => by
    obtain ⟨hpiece, hrest⟩ := List.forall_mem_cons.1 h
    have hpieces := foldlM_step_pieces hrest (piece.2 :: read) found
    rw [List.flatMap_cons, List.foldlM_append, foldlM_step_piece hpiece]
    simpa using hpieces

/-- A text is read as its content. -/
theorem reads_text {cs : List Char} {content : Option String} (h : SpellsText cs content) :
    Reads cs [.text content] := by
  obtain ⟨pieces, hpieces, rfl, rfl⟩ := h
  intro found
  refine ⟨⟨.between, .text (Piece.content (pieces.map Prod.snd)) :: found⟩, ?_, settled_between _⟩
  rw [List.cons_append, List.foldlM_cons]
  change (pieces.flatMap Prod.fst ++ ['"']).foldlM step ⟨.text [], found⟩ = _
  rw [List.foldlM_append, foldlM_step_pieces hpieces]
  simp [step]

end QuerySnippet.Json
