/-
Number literals are taken apart as the grammar puts them together.

Every part of a literal ends where a character of another kind stands, so the longest
runs that the reader takes are the parts (`read_of_spells`). An integer is written as
such a literal, and as long as it fits in 64 bits the literal denotes it and not a number
near it (`spells_toString`). A literal that denotes an unsigned word is what is written for
that word (`value_eq_word_iff`).
-/
import Mathlib.Data.List.Induction
import Mathlib.Data.List.TakeDrop
import Mathlib.Data.List.TakeWhile
import QuerySnippet.Proofs.Document.Plain
import QuerySnippet.Proofs.Json.Grammar

namespace QuerySnippet.Json

namespace Numeral

/-! ## Literals by their parts -/

theorem digits_append {ds rest : List Char} (hd : ∀ c ∈ ds, c.isDigit)
    (hrest : ∀ c ∈ rest.head?, ¬ c.isDigit) : digits (ds ++ rest) = (ds, rest) := by
  have hstop : rest.takeWhile Char.isDigit = [] ∧ rest.dropWhile Char.isDigit = rest := by
    cases rest with
    | nil => exact ⟨rfl, rfl⟩
    | cons c rest =>
      have hc : c.isDigit = false := by simpa using hrest c rfl
      simp [hc]
  rw [digits, List.span_eq_takeWhile_dropWhile, List.takeWhile_append_of_pos hd,
    List.dropWhile_append_of_pos hd, hstop.1, hstop.2, List.append_nil]

theorem readWhole_append {ds rest : List Char} (h : Whole ds)
    (hrest : ∀ c ∈ rest.head?, ¬ c.isDigit) : readWhole (ds ++ rest) = some (ds, rest) := by
  rw [readWhole, digits_append h.isDigit hrest]
  split
  · next heq => exact absurd (Prod.mk.inj heq).1 h.ne_nil
  · next heq =>
    obtain ⟨rfl, -⟩ := Prod.mk.inj heq
    exact absurd (h.zero rfl) (by simp)
  · rfl

/-- No other character stands at the front of a row of digits. -/
theorem Digits.append_ne_cons {ds : List Char} (h : Digits ds) {c : Char} (hc : ¬ c.isDigit)
    (rest rest' : List Char) : ds ++ rest ≠ c :: rest' := by
  obtain ⟨d, ds, rfl⟩ := List.exists_cons_of_ne_nil h.ne_nil
  rintro ⟨⟩
  exact hc (h.isDigit c List.mem_cons_self)

theorem SpellsFraction.head? {point rest : List Char} {fraction : Option (List Char)}
    (h : SpellsFraction point fraction) (hrest : ∀ c ∈ rest.head?, ¬ c.isDigit) :
    ∀ c ∈ (point ++ rest).head?, ¬ c.isDigit := by
  cases h with
  | absent => exact hrest
  | present => simp

theorem readFraction_append {point rest : List Char} {fraction : Option (List Char)}
    (h : SpellsFraction point fraction) (hrest : ∀ c ∈ rest.head?, ¬ c.isDigit)
    (hpoint : rest.head? ≠ some '.') : readFraction (point ++ rest) = some (fraction, rest) := by
  cases h with
  | absent =>
    rw [List.nil_append]
    unfold readFraction
    split
    · exact absurd rfl hpoint
    · rfl
  | present hd =>
    rw [List.cons_append, readFraction, digits_append hd.isDigit hrest]
    split
    · next heq => exact absurd (Prod.mk.inj heq).1 hd.ne_nil
    · next heq =>
      obtain ⟨rfl, rfl⟩ := Prod.mk.inj heq
      rfl

theorem SpellsExponent.head? {power : List Char} {exponent : Option (Bool × List Char)}
    (h : SpellsExponent power exponent) : power.head? = none ∨ power.head? = some 'e' ∨
      power.head? = some 'E' := by
  cases h with
  | absent => exact .inl rfl
  | present hletter => rcases hletter with rfl | rfl <;> simp

theorem takeSign_append {sign ds : List Char} {negative : Bool}
    (hsign : (sign, negative) ∈ [([], false), (['+'], false), (['-'], true)]) (hd : Digits ds) :
    Text.takeSign (sign ++ ds) = (negative, ds) := by
  simp only [List.mem_cons, Prod.mk.injEq, List.not_mem_nil, or_false] at hsign
  rcases hsign with ⟨rfl, rfl⟩ | ⟨rfl, rfl⟩ | ⟨rfl, rfl⟩
  · have hfront {c : Char} (hc : ¬ c.isDigit) (rest : List Char) : ds ≠ c :: rest := by
      simpa using hd.append_ne_cons hc [] rest
    rw [List.nil_append]
    unfold Text.takeSign
    split
    · exact absurd rfl (hfront (by decide) _)
    · exact absurd rfl (hfront (by decide) _)
    · rfl
  · rfl
  · rfl

theorem readExponent_of_spells {power : List Char} {exponent : Option (Bool × List Char)}
    (h : SpellsExponent power exponent) : readExponent power = some (exponent, []) := by
  cases h with
  | absent => rfl
  | @present letter sign ds negative hletter hsign hd =>
    have hdigits : digits (ds ++ []) = (ds, []) := digits_append hd.isDigit (by simp)
    rw [List.append_nil] at hdigits
    rw [List.cons_append, readExponent, if_pos hletter, takeSign_append hsign hd]
    simp only [hdigits]
    split
    · next heq => exact absurd (Prod.mk.inj heq).1 hd.ne_nil
    · next heq =>
      obtain ⟨rfl, rfl⟩ := Prod.mk.inj heq
      rfl

/-- A number literal is taken apart into its parts. -/
theorem read_of_spells {cs : List Char} {n : Numeral} (h : Spells cs n) : read cs = some n := by
  cases h with
  | @mk minus whole point power negative fraction exponent hminus hwhole hfraction hexponent =>
    have hpower : ∀ c ∈ power.head?, ¬ c.isDigit := by
      rcases hexponent.head? with h | h | h <;> simp [h]
    have hpoint : power.head? ≠ some '.' := by
      rcases hexponent.head? with h | h | h <;> simp [h]
    have hrest := readWhole_append hwhole (hfraction.head? hpower)
    simp only [List.mem_cons, Prod.mk.injEq, List.not_mem_nil, or_false] at hminus
    rcases hminus with ⟨rfl, rfl⟩ | ⟨rfl, rfl⟩
    · -- without a sign, the first character is a digit
      have hdigit : ∀ cs, whole ++ (point ++ power) ≠ '-' :: cs :=
        hwhole.append_ne_cons (by decide) _
      rw [List.nil_append, List.append_assoc]
      unfold read
      split
      next negative cs heq =>
        split at heq
        · next h => exact absurd h (hdigit _)
        · cases heq
          simp [hrest, readFraction_append hfraction hpower hpoint,
            readExponent_of_spells hexponent]
    · simp [read, hrest, readFraction_append hfraction hpower hpoint,
        readExponent_of_spells hexponent]

theorem Spells.unique {cs : List Char} {n n' : Numeral} (h : Spells cs n) (h' : Spells cs n') :
    n = n' :=
  Option.some.inj ((read_of_spells h).symm.trans (read_of_spells h'))

/-! ## Integers -/

/-- Only the digits of zero begin with a zero. -/
theorem head?_toDigits (n : Nat) : (Nat.toDigits 10 n).head? = some '0' → n = 0 := by
  induction n using Nat.base_induction 10 (by decide) with
  | single m hm =>
    rw [Nat.toDigits_of_lt_base hm]
    intro h
    have hc : m.digitChar = '0' := by simpa using h
    have hval := Nat.toNat_digitChar_of_lt_ten hm
    rw [hc] at hval
    simpa using hval
  | digit m k hk hm ih =>
    rw [← Nat.toDigits_append_toDigits (by decide) hm hk, List.head?_append]
    intro h
    cases hd : (Nat.toDigits 10 m).head? with
    | none => simp at hd
    | some d =>
      rw [hd] at h ih
      have := ih (by simpa using h)
      omega

theorem isDigit_of_mem_toDigits {n : Nat} {c : Char} (h : c ∈ Nat.toDigits 10 n) : c.isDigit :=
  Nat.isDigit_of_mem_toDigits (by decide) (by decide) h

theorem whole_toDigits (n : Nat) : Whole (Nat.toDigits 10 n) where
  ne_nil := Nat.toDigits_ne_nil
  isDigit _ := isDigit_of_mem_toDigits
  zero h := by
    obtain rfl : n = 0 := head?_toDigits n h
    rfl

/-- A row of digits that may be negative, without fraction and exponent. -/
def ofNat (negative : Bool) (n : Nat) : Numeral := ⟨negative, Nat.toDigits 10 n, none, none⟩

theorem spells_toDigits (n : Nat) : Spells (Nat.toDigits 10 n) (ofNat false n) := by
  have h : Spells ([] ++ Nat.toDigits 10 n ++ [] ++ []) (ofNat false n) :=
    .mk (by simp) (whole_toDigits n) .absent .absent
  simpa using h

theorem spells_minus_toDigits (n : Nat) : Spells ('-' :: Nat.toDigits 10 n) (ofNat true n) := by
  have h : Spells (['-'] ++ Nat.toDigits 10 n ++ [] ++ []) (ofNat true n) :=
    .mk (by simp) (whole_toDigits n) .absent .absent
  simpa using h

theorem value_ofNat_false {n : Nat} (h : Number.Fits64 n) : (ofNat false n).value = .integer n := by
  have hu : Number.fitsUnsigned 64 (n : Int) = true := by
    rcases h with h | h
    · exact h
    · simp [Number.fitsUnsigned, Number.fitsSigned] at h ⊢
      omega
  simp [value, ofNat, hu]

theorem value_ofNat_true {n : Nat} (hn : 0 < n) (h : Number.Fits64 (-n)) :
    (ofNat true n).value = .integer (-n) := by
  have hs : Number.fitsSigned 64 (-n : Int) = true := by
    rcases h with h | h
    · simp [Number.fitsUnsigned] at h
      omega
    · exact h
  simp [value, ofNat, hn, hs]

/-- The text of an integer that fits is a literal that denotes it. -/
theorem spells_toString {z : Int} (h : Number.Fits64 z) :
    ∃ n, Spells (toString z).toList n ∧ n.value = .integer z := by
  rw [Int.toString_eq_repr, Int.repr_eq_if]
  split
  · next hz =>
    obtain ⟨m, rfl⟩ := Int.eq_ofNat_of_zero_le hz
    rw [Int.toNat_natCast, Nat.toList_repr]
    exact ⟨_, spells_toDigits m, value_ofNat_false h⟩
  · next hz =>
    obtain ⟨m, hm, rfl⟩ : ∃ m : Nat, 0 < m ∧ z = -m := ⟨(-z).toNat, by omega, by omega⟩
    rw [Int.neg_neg, Int.toNat_natCast, String.toList_append, Nat.toList_repr]
    exact ⟨_, spells_minus_toDigits m, value_ofNat_true hm h⟩

/-! ## Unsigned words -/

theorem exists_digitChar_eq {c : Char} (h : c.isDigit) : ∃ k < 10, Nat.digitChar k = c := by
  have hrange : 48 ≤ c.toNat ∧ c.toNat ≤ 57 := Char.isDigit_iff_toNat.1 h
  have hlt : c.toNat - 48 < 10 := by omega
  refine ⟨c.toNat - 48, hlt, Char.toNat_inj.1 ?_⟩
  rw [Nat.toNat_digitChar_of_lt_ten hlt]
  omega

/-- Digits without a zero in front are what is written for their number. -/
theorem toDigits_ofDigitChars {ds : List Char} (h : Whole ds) :
    Nat.toDigits 10 (Nat.ofDigitChars 10 ds 0) = ds := by
  induction ds using List.reverseRecOn with
  | nil => exact absurd rfl h.ne_nil
  | append_singleton ds c ih =>
    obtain ⟨k, hk, rfl⟩ := exists_digitChar_eq (h.isDigit c (by simp))
    rw [Nat.ofDigitChars_append, Nat.ofDigitChars_cons_digitChar_of_lt_ten hk, Nat.ofDigitChars_nil]
    by_cases hds : ds = []
    · subst hds
      simp [Nat.toDigits_of_lt_base hk]
    · have hhead : ds.head? ≠ some '0' := by
        intro hzero
        have := h.zero (by rw [List.head?_append, hzero]; rfl)
        simp [List.append_eq_singleton_iff, hds] at this
      have hwhole : Whole ds :=
        ⟨⟨hds, fun c hc => h.isDigit c (List.mem_append_left _ hc)⟩,
          fun hzero => absurd hzero hhead⟩
      have hpos : 0 < Nat.ofDigitChars 10 ds 0 := by
        rw [Nat.pos_iff_ne_zero]
        intro hzero
        rw [← ih hwhole, hzero] at hhead
        exact hhead rfl
      rw [← Nat.toDigits_append_toDigits (by decide) hpos hk, ih hwhole, Nat.toDigits_of_lt_base hk]

theorem signed_ne_integer {negative : Bool} {x : Option Number.Magnitude} {z : Int} :
    signed negative x ≠ .integer z := by
  cases x <;> nofun

theorem floating_ne_integer {n : Numeral} {z : Int} : n.floating ≠ .integer z := signed_ne_integer

theorem value_ne_null (n : Numeral) : n.value ≠ .null := by
  have hfloating : n.floating ≠ .null := by
    rw [floating]
    cases scale n.decimal.1 n.decimal.2 <;> nofun
  rw [value]
  dsimp only
  split_ifs <;> first | exact hfloating | nofun

/-- Only digits without a sign, or behind one that is not for nothing, denote an integer. -/
theorem parts_of_value_eq_integer {n : Numeral} {z : Int} (h : n.value = .integer z) :
    n.fraction = none ∧ n.exponent = none ∧
      (n.negative = false ∧ z = Nat.ofDigitChars 10 n.whole 0 ∨ n.negative = true ∧ z < 0) := by
  rw [value] at h
  split at h
  · next hparts =>
    simp only [Option.isNone_iff_eq_none] at hparts
    refine ⟨hparts.1, hparts.2, ?_⟩
    dsimp only at h
    split at h
    · next hnegative =>
      split at h
      · next hsize =>
        cases h
        exact .inr ⟨hnegative, by omega⟩
      · exact absurd h floating_ne_integer
    · next hnegative =>
      split at h
      · cases h
        exact .inl ⟨Bool.eq_false_iff.2 hnegative, rfl⟩
      · exact absurd h floating_ne_integer
  · exact absurd h floating_ne_integer

/-- A literal denotes a word just when it is what is written for the word. -/
theorem value_eq_word_iff {lit : List Char} {n : Numeral} (h : Spells lit n) {w : UInt64} :
    n.value = .integer w.toNat ↔ lit = Nat.toDigits 10 w.toNat := by
  constructor
  · intro hvalue
    obtain ⟨hfraction, hexponent, hsign⟩ := parts_of_value_eq_integer hvalue
    cases h with
    | @mk minus _ _ _ _ _ _ hminus hwhole hpoint hpower =>
      cases hfraction
      cases hexponent
      cases hpoint
      cases hpower
      rcases hsign with ⟨hnegative, hsize⟩ | ⟨-, hlt⟩
      · cases hnegative
        have hnone : minus = [] := by simpa using hminus
        rw [hnone, Int.ofNat_inj.1 hsize, toDigits_ofDigitChars hwhole]
        simp
      · omega
  · rintro rfl
    rw [h.unique (spells_toDigits _)]
    exact value_ofNat_false (Number.fits64_toNat w)

/-- The characters are digits without a zero in front of others, for a number below `2 ^ 64`. -/
structure WordLiteral (lit : List Char) : Prop where
  isDigit : ∀ c ∈ lit, c.isDigit
  front : lit = ['0'] ∨ lit.head? ≠ some '0'
  lt : Nat.ofDigitChars 10 lit 0 < UInt64.size

theorem wordLiteral_toDigits (w : UInt64) : WordLiteral (Nat.toDigits 10 w.toNat) where
  isDigit _ := isDigit_of_mem_toDigits
  front := by
    by_cases hhead : (Nat.toDigits 10 w.toNat).head? = some '0'
    · exact .inl ((whole_toDigits _).zero hhead)
    · exact .inr hhead
  lt := by
    rw [Nat.ofDigitChars_ten_toDigits]
    exact w.toNat_lt_size

/-- Of the number literals, those are what is written for a word. -/
theorem wordLiteral_iff {lit : List Char} (hne : lit ≠ []) :
    WordLiteral lit ↔ ∃ w : UInt64, lit = Nat.toDigits 10 w.toNat := by
  constructor
  · intro h
    have hwhole : Whole lit := ⟨⟨hne, h.isDigit⟩, fun hzero => h.front.resolve_right (absurd hzero)⟩
    refine ⟨.ofNat (Nat.ofDigitChars 10 lit 0), ?_⟩
    rw [UInt64.toNat_ofNat_of_lt' h.lt, toDigits_ofDigitChars hwhole]
  · rintro ⟨w, rfl⟩
    exact wordLiteral_toDigits w

end Numeral

/-! ## Words -/

theorem word?_of_read {cs : List Char} {n : Numeral} (h : Numeral.read cs = some n) :
    word? cs = some n.value := by
  have hname : ∀ name, Numeral.read name = none → cs ≠ name := by
    rintro name hname rfl
    rw [hname] at h
    cases h
  rw [word?, if_neg (hname _ (by decide +kernel)), if_neg (hname _ (by decide +kernel)),
    if_neg (hname _ (by decide +kernel)), h]
  rfl

theorem Numeral.Spells.ne_nil {cs : List Char} {n : Numeral} (h : Spells cs n) : cs ≠ [] := by
  cases h with
  | mk _ hwhole => simp [hwhole.ne_nil]

theorem isWordChar_of_isDigit {c : Char} (h : c.isDigit) : isWordChar c = true := by
  simp [isWordChar, Char.isAlphanum, h]

theorem isWordChar_of_mem_sign {sign : List Char} {negative : Bool}
    (h : (sign, negative) ∈ [([], false), (['+'], false), (['-'], true)]) :
    ∀ c ∈ sign, isWordChar c := by
  simp only [List.mem_cons, Prod.mk.injEq, List.not_mem_nil, or_false] at h
  rcases h with ⟨rfl, -⟩ | ⟨rfl, -⟩ | ⟨rfl, -⟩
  · exact List.forall_mem_nil _
  · exact List.forall_mem_singleton.2 rfl
  · exact List.forall_mem_singleton.2 rfl

theorem Numeral.SpellsFraction.isWordChar {cs : List Char} {fraction : Option (List Char)}
    (h : SpellsFraction cs fraction) : ∀ c ∈ cs, isWordChar c := by
  cases h with
  | absent => simp
  | present hd =>
    rw [List.forall_mem_cons]
    exact ⟨rfl, fun c hc => isWordChar_of_isDigit (hd.isDigit c hc)⟩

theorem Numeral.SpellsExponent.isWordChar {cs : List Char} {exponent : Option (Bool × List Char)}
    (h : SpellsExponent cs exponent) : ∀ c ∈ cs, isWordChar c := by
  cases h with
  | absent => simp
  | present hletter hsign hd =>
    rw [List.cons_append, List.forall_mem_cons, List.forall_mem_append]
    refine ⟨?_, isWordChar_of_mem_sign hsign, fun c hc => isWordChar_of_isDigit (hd.isDigit c hc)⟩
    rcases hletter with rfl | rfl <;> rfl

theorem Numeral.Spells.isWordChar {cs : List Char} {n : Numeral} (h : Spells cs n) :
    ∀ c ∈ cs, isWordChar c := by
  cases h with
  | mk hminus hwhole hfraction hexponent =>
    have hsign := List.cons_subset_cons _ (List.subset_cons_self (['+'], false) _) hminus
    simp only [List.forall_mem_append]
    exact ⟨⟨⟨isWordChar_of_mem_sign hsign, fun c hc => isWordChar_of_isDigit (hwhole.isDigit c hc)⟩,
      hfraction.isWordChar⟩, hexponent.isWordChar⟩

end QuerySnippet.Json
