/-
Reading a JSON text of a document.

A text is read as the document that the grammar says it spells (`parse_of_spells`),
however it is spelled. A plain document is written as one of its texts
(`spells_spell`), so it comes back as it was (`parse_write`), and a value is read from
its text exactly as from its document; where the document has to be sound, its depth
decides.
-/
import QuerySnippet.Json.Decode
import QuerySnippet.Json.Write
import QuerySnippet.Proofs.Json.Build
import QuerySnippet.Proofs.Json.Scan
import QuerySnippet.Proofs.Outcome

namespace QuerySnippet.Json

/-! ## Texts are read -/

mutual

theorem Spells.exists_tokens : ∀ {cs : List Char} {d : Document}, Spells cs d →
    ∃ ts, Reads cs ts ∧ Builder.Completes ts d
  | _, _, .null => ⟨_, reads_word (by decide) (by decide) rfl, Builder.completes_word _⟩
  | _, _, .true => ⟨_, reads_word (by decide) (by decide) rfl, Builder.completes_word _⟩
  | _, _, .false => ⟨_, reads_word (by decide) (by decide) rfl, Builder.completes_word _⟩
  | _, _, .number h => ⟨_, reads_number h, Builder.completes_word _⟩
  | _, _, .text h => ⟨_, reads_text h, Builder.completes_text _⟩
  | _, _, .surrogate h => ⟨_, reads_text h, Builder.completes_surrogate⟩
  | _, _, .emptyArray h =>
    ⟨_, Reads.nil.append (c := '[') rfl ((reads_blanks h).append (c := ']') rfl .nil),
      Builder.completes_emptyArray⟩
  | _, _, .array h => by
    obtain ⟨ts, hreads, hitems⟩ := h.exists_tokens
    exact ⟨_, Reads.nil.append (c := '[') rfl (hreads.append (c := ']') rfl .nil), hitems.array⟩
  | _, _, .emptyObject h =>
    ⟨_, Reads.nil.append (c := '\x7b') rfl ((reads_blanks h).append (c := '\x7d') rfl .nil),
      Builder.completes_emptyObject⟩
  | _, _, .object h => by
    obtain ⟨ts, hreads, hmembers⟩ := h.exists_tokens
    exact ⟨_, Reads.nil.append (c := '\x7b') rfl (hreads.append (c := '\x7d') rfl .nil),
      hmembers.object⟩
  | _, _, .blanks hbefore h hafter => by
    obtain ⟨ts, hreads, hd⟩ := h.exists_tokens
    exact ⟨ts, hreads.blanks hbefore hafter, hd⟩

theorem SpellsItems.exists_tokens : ∀ {cs : List Char} {items : List Document},
    SpellsItems cs items → ∃ ts, Reads cs ts ∧ Builder.CompletesItems ts items
  | _, _, .one h => by
    obtain ⟨ts, hreads, hd⟩ := h.exists_tokens
    exact ⟨ts, hreads, hd.item⟩
  | _, _, .append h h' => by
    obtain ⟨ts, hreads, hitems⟩ := h.exists_tokens
    obtain ⟨ts', hreads', hitems'⟩ := h'.exists_tokens
    exact ⟨_, hreads.append (c := ',') rfl hreads', hitems.append hitems'⟩

theorem SpellsMembers.exists_tokens :
    ∀ {cs : List Char} {members : List (Option String × Document)},
    SpellsMembers cs members → ∃ ts, Reads cs ts ∧ Builder.CompletesMembers ts members
  | _, _, .one hbefore hname hafter h => by
    obtain ⟨ts, hreads, hd⟩ := h.exists_tokens
    have hname := (reads_text hname).blanks hbefore hafter
    exact ⟨_, hname.append (c := ':') rfl hreads, hd.member _⟩
  | _, _, .append h h' => by
    obtain ⟨ts, hreads, hmembers⟩ := h.exists_tokens
    obtain ⟨ts', hreads', hmembers'⟩ := h'.exists_tokens
    exact ⟨_, hreads.append (c := ',') rfl hreads', hmembers.append hmembers'⟩

end

/-- **A text is read as the document that it spells.** -/
theorem parse_of_spells {cs : List Char} {d : Document} (h : Spells cs d) :
    parse (String.ofList cs) = some d := by
  obtain ⟨ts, hreads, hd⟩ := h.exists_tokens
  rw [parse, String.toList_ofList, tokens_of_reads hreads]
  exact ofTokens_of_completes hd

/-! ## Documents are written as one of their texts -/

theorem hexDigit?_digitChar : ∀ n : Fin 16, Text.hexDigit? (Nat.digitChar n) = some n.val := by
  decide

/-- A character that is below U+0020 is written by its number. -/
theorem spellsPiece_unit {c : Char} (h : c.toNat < 0x20) : SpellsPiece
    ['\\', 'u', '0', '0', Nat.digitChar (c.toNat / 16), Nat.digitChar (c.toNat % 16)]
    (.char c) := by
  have hhigh := hexDigit?_digitChar ⟨c.toNat / 16, by omega⟩
  have hlow := hexDigit?_digitChar ⟨c.toNat % 16, by omega⟩
  have hvalue : 16 * (16 * (16 * 0 + 0) + c.toNat / 16) + c.toNat % 16 = c.toNat := by omega
  have hunit : Piece.ofUnit c.toNat = .char c := by
    rw [Piece.ofUnit, if_neg (by omega), Char.ofNat_toNat]
  have hpiece := SpellsPiece.unit (show Text.hexDigit? '0' = some 0 by decide)
    (show Text.hexDigit? '0' = some 0 by decide) hhigh hlow
  rwa [hvalue, hunit] at hpiece

theorem spellsPiece_writeChar (c : Char) : SpellsPiece (writeChar c) (.char c) := by
  unfold writeChar
  split
  · next h => rcases h with rfl | rfl <;> exact .escape rfl
  split
  · next h => subst h; exact .escape rfl
  split
  · next h => subst h; exact .escape rfl
  split
  · next h => subst h; exact .escape rfl
  split
  · next h => subst h; exact .escape rfl
  split
  · next h => subst h; exact .escape rfl
  split
  · next h => exact spellsPiece_unit h
  · next hq _ _ _ _ _ hlow =>
    obtain ⟨hquote, hslash⟩ := not_or.1 hq
    exact .plain hquote hslash (Nat.le_of_not_lt hlow)

theorem join_map_char : ∀ cs : List Char, Piece.join (cs.map .char) = some cs
  | [] => rfl
  | c :: cs => by rw [List.map_cons, Piece.join, join_map_char cs]; rfl

theorem spellsText_writeText (s : String) : SpellsText (writeText s) (some s) := by
  refine ⟨s.toList.map fun c => (writeChar c, .char c), ?_, ?_, ?_⟩
  · intro piece hmem
    obtain ⟨c, -, rfl⟩ := List.mem_map.1 hmem
    exact spellsPiece_writeChar c
  · rw [writeText, List.flatMap_map]
  · rw [List.map_map, Piece.content]
    change (Piece.join (s.toList.map .char)).map String.ofList = some s
    rw [join_map_char, Option.map_some, String.ofList_toList]

theorem blanks_nil : Blanks [] := fun _ h => absurd h List.not_mem_nil

mutual

/-- A plain document is written as one of its texts. -/
theorem spells_spell : ∀ {d : Document}, d.Plain → Spells (spell d) d
  | .null, _ => .null
  | .boolean true, _ => .true
  | .boolean false, _ => .false
  | .integer z, h => by
    obtain ⟨n, hn, hvalue⟩ := Numeral.spells_toString h
    have hspells := Spells.number hn
    rwa [hvalue] at hspells
  | .text s, _ => .text (spellsText_writeText s)
  | .array [], _ => .emptyArray blanks_nil
  | .array (item :: items), h => .array (spellsItems_spellItems (item :: items) (by simp) h)
  | .object [], _ => .emptyObject blanks_nil
  | .object (member :: members), h => by
    have hmembers := Spells.object (spellsMembers_spellMembers (member :: members) (by simp) h)
    rwa [objectOf_map_some] at hmembers

theorem spellsItems_spellItems : ∀ (items : List Document), items ≠ [] →
    Document.PlainItems items → SpellsItems (spellItems items) items
  | [], h, _ => absurd rfl h
  | [_], _, h => .one (spells_spell h.1)
  | _ :: next :: items, _, h =>
    .append (.one (spells_spell h.1)) (spellsItems_spellItems (next :: items) (by simp) h.2)

theorem spellsMembers_spellMembers : ∀ (members : List (String × Document)), members ≠ [] →
    Document.PlainMembers members →
      SpellsMembers (spellMembers members) (members.map fun (name, value) => (some name, value))
  | [], h, _ => absurd rfl h
  | [(name, _)], _, h => by
    have hone := SpellsMembers.one blanks_nil (spellsText_writeText name) blanks_nil
      (spells_spell h.1)
    simpa [spellMembers] using hone
  | (name, _) :: next :: members, _, h => by
    have hone := SpellsMembers.one blanks_nil (spellsText_writeText name) blanks_nil
      (spells_spell h.1)
    have hrest := spellsMembers_spellMembers (next :: members) (by simp) h.2
    simpa [spellMembers] using hone.append hrest

end

/-- **Reading what was written.** The text of a plain document is read as that document. -/
theorem parse_write {d : Document} (h : d.Plain) : parse (write d) = some d :=
  parse_of_spells (spells_spell h)

section Decode

variable {α : Type}

theorem decode_write {read : Document → Except Fault α} {d : Document} {a : α} (h : d.Plain)
    (hread : read d = .ok a) : decode read (write d) = .ok a := by
  rw [decode, parse_write h]
  change (read d).mapError _ = _
  rw [hread]
  rfl

theorem decodeSound_eq_ok_iff {read : Document → Except Fault α} {s : String} {d : Document} {a : α}
    (h : parse s = some d) : decodeSound read s = .ok a ↔ d.isSound ∧ read d = .ok a := by
  rw [decodeSound, h]
  by_cases hsound : d.isSound <;> simp [hsound, Except.mapError_eq_ok]

/-- A value whose document has to be sound comes back unless the document is nested too deep. -/
theorem decodeSound_write {read : Document → Except Fault α} {d : Document} {a : α} (h : d.Plain)
    (hread : d.depth ≤ Document.maxDepth → read d = .ok a) :
    decodeSound read (write d) =
      if d.depth ≤ Document.maxDepth then .ok a else .error (.json none) := by
  rw [decodeSound, parse_write h]
  change (if d.isSound then (read d).mapError _ else _) = _
  by_cases hdepth : d.depth ≤ Document.maxDepth
  · rw [Document.isSound_of_plain h, if_pos (by simpa using hdepth), if_pos hdepth, hread hdepth]
    rfl
  · rw [Document.isSound_of_plain h, if_neg (by simpa using hdepth), if_neg hdepth]

end Decode

end QuerySnippet.Json
