/-
How many arguments a text needs.

The tokens of a text ask for a number of arguments (`Meaning.arity`): one more than
the largest index among them. With that many or more the text is a template, with the
same parts each time, and with fewer it is none. A template never asks for more than
it has, so two computations that could fail on parts as such do not fail on its parts:
looking the arguments up in an array that holds just the `n` of them (`renderFrom?`),
and counting in 64-bit words (`referencedWord?`).
-/
import QuerySnippet.Document.Read
import QuerySnippet.Proofs.Template.Meaning

namespace QuerySnippet.Template

/-! ## The number of arguments that tokens ask for -/

/-- The index of the argument that is meant. -/
def Meaning.index? : Meaning → Option Nat
  | char _ => none
  | argument i => some i

/-- One more than the largest index among the arguments that are meant. -/
def Meaning.arity (meanings : List Meaning) : Nat :=
  (meanings.filterMap index?).max?.elim 0 (· + 1)

theorem Meaning.mem_filterMap_index?_iff {meanings : List Meaning} {i : Nat} :
    i ∈ meanings.filterMap index? ↔ .argument i ∈ meanings := by
  rw [List.mem_filterMap]
  constructor
  · rintro ⟨meaning, hmem, hi⟩
    cases meaning with
    | char c => cases hi
    | argument j =>
      obtain rfl := Option.some.inj hi
      exact hmem
  · intro hmem
    exact ⟨.argument i, hmem, rfl⟩

theorem Meaning.arity_le_iff {meanings : List Meaning} {m : Nat} :
    arity meanings ≤ m ↔ Within m meanings := by
  rw [arity, max?_elim_le_iff]
  simp only [mem_filterMap_index?_iff, Within]

variable {n : Nat}

/-- A template counts as many arguments as its tokens ask for. -/
theorem referencedArgs_of_spell {t : Template n} {tokens : List Token}
    (h : Token.Spell tokens t.source.toList) :
    t.referencedArgs = Meaning.arity (Token.meanings tokens) := by
  refine eq_of_forall_ge_iff fun m => ?_
  rw [referencedArgs_le_iff, Meaning.arity_le_iff, meanings_of_spell h]

theorem referencedArgs_le (t : Template n) : t.referencedArgs ≤ n :=
  referencedArgs_le_iff.2 t.within_meanings

theorem exists_parse_iff_arity_le {source : String} {tokens : List Token}
    (h : Token.Spell tokens source.toList) :
    (∃ t : Template n, parse n source = .ok t) ↔ Meaning.arity (Token.meanings tokens) ≤ n := by
  constructor
  · rintro ⟨t, ht⟩
    obtain rfl := parse_eq_ok_iff.1 ht
    rw [← referencedArgs_of_spell h]
    exact t.referencedArgs_le
  · intro hle
    obtain ⟨t, rfl⟩ := exists_of_spell h (Meaning.arity_le_iff.1 hle)
    exact ⟨t, t.parse_source⟩

/-! ## Computations that could fail -/

/-- The text of a part with the arguments in an array. There is none when the array does not reach
to the index. -/
def Part.fillFrom? (args : Array String) : Part → Option (List Char)
  | literal text => some text
  | arg i => args[i]?.map String.toList

/-- The text of parts with the arguments in an array. -/
def renderFrom? (args : Array String) (parts : List Part) : Option String :=
  (parts.mapM (Part.fillFrom? args)).map fun texts => String.ofList texts.flatten

/-- One more than the index of a part. There is none when it is no 64-bit word. -/
def Part.needsWord? : Part → Option Nat
  | literal _ => some 0
  | arg i => if i + 1 < UInt64.size then some (i + 1) else none

/-- The number of arguments that parts ask for, counted in 64-bit words. -/
def referencedWord? (parts : List Part) : Option Nat :=
  (parts.mapM Part.needsWord?).map (·.foldr max 0)

/-- What can be found for each part can be found for all. -/
theorem mapM_eq_some_map {α β : Type} {f : α → Option β} {g : α → β} : ∀ {as : List α},
    (∀ a ∈ as, f a = some (g a)) → as.mapM f = some (as.map g)
  | [], _ => rfl
  | a :: as, h => by
    have hrest := mapM_eq_some_map fun a' h' => h a' (List.mem_cons_of_mem a h')
    rw [List.mapM_cons, h a List.mem_cons_self, hrest]
    rfl

theorem Part.fillFrom?_ofFn (args : Fin n → String) {part : Part} (h : part.FitsIn n) :
    part.fillFrom? (.ofFn args) = some (part.meanings.flatMap (·.text args)) := by
  rw [← Part.fill_eq args h]
  cases part with
  | literal text => rfl
  | arg i =>
    have hi : i < n := h
    simp [fillFrom?, fill, hi]

theorem Part.needsWord?_eq {part : Part} (h : part.FitsIn n) (hn : n < UInt64.size) :
    part.needsWord? = some part.needs := by
  cases part with
  | literal text => rfl
  | arg i =>
    have hi : i < n := h
    have hword : i + 1 < UInt64.size := by omega
    simp only [needsWord?, needs, if_pos hword]

theorem renderFrom?_ofFn (t : Template n) (args : Fin n → String) :
    renderFrom? (.ofFn args) t.parts = some (t.render args) := by
  have htexts := mapM_eq_some_map fun part hmem => Part.fillFrom?_ofFn args (t.fits part hmem)
  rw [renderFrom?, htexts, Option.map_some, Option.some.injEq, ← String.toList_inj, toList_render,
    String.toList_ofList, meanings, List.flatMap_assoc, List.flatMap_def]

theorem referencedWord?_eq (t : Template n) (hn : n < UInt64.size) :
    referencedWord? t.parts = some t.referencedArgs := by
  have hcounts := mapM_eq_some_map fun part hmem => Part.needsWord?_eq (t.fits part hmem) hn
  rw [referencedWord?, hcounts]
  rfl

example : renderFrom? #["a"] [.literal ['x'], .arg 1] = none := by decide

example : referencedWord? [.arg (UInt64.size - 1)] = none := by decide

/-- A template is read from a document just when the document is its text. -/
theorem readTemplate_eq_ok_iff {d : Document} {t : Template n} :
    d.readTemplate n = .ok t ↔ d = .text t.source := by
  cases d with
  | text source =>
    have hread : (Document.text source).readTemplate n =
        (parse n source).mapError QuerySnippet.Fault.template := rfl
    rw [hread, Except.mapError_eq_ok, parse_eq_ok_iff, Document.text.injEq]
  | _ =>
    constructor
    · intro h
      cases h
    · intro h
      cases h

/-- **A text has one number of arguments from which on it is a template**, and always with the same
parts. A template, whichever way it has come about, is what its text is read as; it asks for none of
the arguments that it does not have, and neither looking them up nor counting them fails. -/
theorem parse_iff_arity_le :
    (∀ (source : String) (tokens : List Token), Token.Spell tokens source.toList →
      (∀ n, (∃ t, parse n source = .ok t) ↔ Meaning.arity (Token.meanings tokens) ≤ n) ∧
      ∃ parts, ∀ n (t : Template n), parse n source = .ok t →
        t.parts = parts ∧ t.referencedArgs = Meaning.arity (Token.meanings tokens)) ∧
    ∀ (n : Nat) (t : Template n),
      parse n t.source = .ok t ∧
      (∀ d : Document, d.readTemplate n = .ok t ↔ d = .text t.source) ∧
      (∀ i, .arg i ∈ t.parts → i < n) ∧
      (∀ args : Fin n → String, renderFrom? (.ofFn args) t.parts = some (t.render args)) ∧
      (n < UInt64.size → referencedWord? t.parts = some t.referencedArgs) ∧
      t.referencedArgs ≤ n := by
  refine ⟨fun source tokens h => ⟨fun n => exists_parse_iff_arity_le h, ?parts⟩, fun n t => ?safe⟩
  case parts =>
    refine ⟨Part.ofTokens 0 tokens, fun n t ht => ?_⟩
    obtain rfl := parse_eq_ok_iff.1 ht
    exact ⟨parts_of_spell h, referencedArgs_of_spell h⟩
  case safe =>
    exact ⟨t.parse_source, fun d => readTemplate_eq_ok_iff, fun i hi => t.fits _ hi,
      t.renderFrom?_ofFn, t.referencedWord?_eq, t.referencedArgs_le⟩

/-- Both styles of placeholder in one text, and the largest index in the middle. -/
theorem parse_iff_arity_le_of_mixed :
    (¬ ∃ t : Template 2, parse 2 "%s\x7b02\x7d%d" = .ok t) ∧
      ∃ t : Template 3, parse 3 "%s\x7b02\x7d%d" = .ok t ∧ t.referencedArgs = 3 ∧
        ∀ args : Fin 3 → String, renderFrom? (.ofFn args) t.parts = some (t.render args) := by
  have hspell : Token.Spell [.next .text, .indexed ['0', '2'], .next .decimal]
      "%s\x7b02\x7d%d".toList := Token.spell_of_read (by decide +kernel)
  have harity : Meaning.arity (Token.meanings
      [.next .text, .indexed ['0', '2'], .next .decimal]) = 3 := by decide
  obtain ⟨hiff, parts, hparts⟩ := parse_iff_arity_le.1 _ _ hspell
  constructor
  · rw [hiff 2, harity]
    decide
  · obtain ⟨t, ht⟩ := (hiff 3).2 (by rw [harity])
    obtain ⟨-, -, -, hrender, -⟩ := parse_iff_arity_le.2 3 t
    exact ⟨t, ht, (hparts 3 t ht).2.trans harity, hrender⟩

end QuerySnippet.Template
