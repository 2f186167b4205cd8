/-
The numbers among the paging options.

A number literal that stands for one of them is read just when it is what is written for an
unsigned word (`exists_readsNumber_iff`), and the rest of the text makes the same request
around it, whatever the number. So the literal stands in the text that is written for the
request and in the query section, with the same characters before and after it
(`number_of_literal`).
-/
import QuerySnippet.Proofs.Document.Slot
import QuerySnippet.Proofs.Json.Gap
import QuerySnippet.Proofs.Request.Lenient
import QuerySnippet.Proofs.Section.Insert
import QuerySnippet.Proofs.Template.Argument

namespace QuerySnippet

/-! ## Numbers -/

/-- The numbers among the paging options: of entries to pass over and of entries to show. -/
inductive Paging.Amount where
  | skip
  | top

namespace Paging.Amount

/-- The member of the number. -/
def name : Amount → String
  | skip => "skip"
  | top => "top"

/-- The paging options with this number. -/
def set (k : Amount) (value : Option UInt64) (p : Paging) : Paging :=
  match k with
  | skip => { p with skip := value }
  | top => { p with top := value }

/-- The template that shows the number. -/
def template (k : Amount) (e : Expressions) : Template 1 :=
  match k with
  | skip => e.skip
  | top => e.top

theorem field?_name (k : Amount) : Paging.record.field? k.name =
    some (.of k.name (·.readOptional Document.readWord) k.set) := by
  cases k <;> rfl

end Paging.Amount

theorem Document.readWord_eq_ok_iff {d : Document} {w : UInt64} :
    d.readWord = .ok w ↔ d = .integer w.toNat := by
  constructor
  · intro h
    cases d with
    | integer z =>
      rw [readWord] at h
      split at h
      · next hfits =>
        cases h
        simp only [Number.fitsUnsigned, Bool.and_eq_true, decide_eq_true_eq] at hfits
        have hlt : z.toNat < UInt64.size := by
          have hpow : ((Nat.pow 2 64 : Nat) : Int) = UInt64.size := rfl
          omega
        rw [UInt64.toNat_ofNat_of_lt' hlt, Int.toNat_of_nonneg hfits.1]
      · cases h
    | _ => cases h
  · rintro rfl
    exact readWord_ofWord w

theorem Document.readOptional_word_iff {d : Document} (h : d ≠ .null) {value : Option UInt64} :
    d.readOptional readWord = .ok value ↔ ∃ w : UInt64, d = .integer w.toNat ∧ some w = value := by
  have hsome : d.readOptional readWord = some <$> d.readWord := by
    cases d with
    | null => exact absurd rfl h
    | _ => rfl
  simp only [hsome, Except.map_eq_ok, readWord_eq_ok_iff]

namespace Request

/-- The request with this number. -/
def setNumber (k : Paging.Amount) (value : Option UInt64) (r : Request) : Request :=
  { r with paging := k.set value r.paging }

/-- The documents of a request with a place for the number. -/
inductive Slot (k : Paging.Amount) : (Document → Document) → Prop
  | mk {outer inner : Document → Document} : record.Slot "odata_uri" outer →
      Paging.record.Slot k.name inner → Slot k fun d => outer (inner d)

variable {k : Paging.Amount} {fill : Document → Document} {front back : List Char}

/-- What stands in the rest of the document makes one request, but for the number. -/
theorem Slot.read (hslot : Slot k fill) (hok : ∃ d r, record.read (fill d) = .ok r) :
    ∃ base : Request, ∀ d r, record.read (fill d) = .ok r ↔
      ∃ value, d.readOptional Document.readWord = .ok value ∧ base.setNumber k value = r := by
  obtain ⟨houter, hinner⟩ := hslot
  rename_i outer inner
  have hfield : record.field? "odata_uri" =
      some (.of "odata_uri" Paging.record.read fun paging r => { r with paging }) := rfl
  obtain ⟨d, r, hr⟩ := hok
  obtain ⟨others, hothers⟩ := Record.read_slot independent_fields houter hfield ⟨_, r, hr⟩
  obtain ⟨p, hp, -⟩ := (hothers _ _).1 hr
  obtain ⟨rest, hrest⟩ := Record.read_slot Paging.independent_fields hinner k.field?_name ⟨d, p, hp⟩
  refine ⟨{ others with paging := rest }, fun d r => ?_⟩
  simp only [hothers, hrest]
  constructor
  · rintro ⟨p, ⟨value, hvalue, hpaging⟩, hfinish⟩
    obtain rfl := Except.ok.inj hpaging
    exact ⟨value, hvalue, Except.ok.inj hfinish⟩
  · rintro ⟨value, hvalue, rfl⟩
    exact ⟨_, ⟨value, hvalue, rfl⟩, rfl⟩

/-! ## Literals -/

theorem exists_readsNumber_iff (hslot : Slot k fill) (hgap : Json.Gap front back fill)
    (hok : ∃ cs d r, Json.Spells cs d ∧ ofJson (String.ofList (front ++ cs ++ back)) = .ok r) :
    ∃ base : Request, ∀ {lit n}, Json.Numeral.Spells lit n → ∀ {r},
      ofJson (String.ofList (front ++ lit ++ back)) = .ok r ↔
        ∃ w : UInt64, lit = Nat.toDigits 10 w.toNat ∧ base.setNumber k (some w) = r := by
  have hread {cs : List Char} {d : Document} {r : Request} (hcs : Json.Spells cs d) :
      ofJson (String.ofList (front ++ cs ++ back)) = .ok r ↔ record.read (fill d) = .ok r := by
    rw [ofJson, Json.decode, Json.parse_of_spells (hgap.spells hcs)]
    exact Except.mapError_eq_ok
  obtain ⟨cs, d, r, hcs, hr⟩ := hok
  obtain ⟨base, hbase⟩ := hslot.read ⟨d, r, (hread hcs).1 hr⟩
  refine ⟨base, fun {lit n} hlit {r} => ?_⟩
  rw [hread (.number hlit), hbase]
  simp only [Document.readOptional_word_iff n.value_ne_null, Json.Numeral.value_eq_word_iff hlit]
  constructor
  · rintro ⟨_, ⟨w, hw, rfl⟩, hr⟩
    exact ⟨w, hw, hr⟩
  · rintro ⟨w, hw, hr⟩
    exact ⟨_, ⟨w, hw, rfl⟩, hr⟩

/-- The members of a request before its paging options. -/
def membersBefore (r : Request) : List (String × Document) := [
  ("request_headers", r.headers.toDocument),
  ("filter_field_list", .ofTexts r.filter),
  ("expand_field_list", .ofTexts r.expand),
  ("select_field_list", .ofTexts r.select),
  ("order_by_field_list", .ofTexts r.orderBy),
  ("search_expression", .ofOption .text r.searchExpression)]

theorem plain_membersBefore (r : Request) : Document.PlainMembers r.membersBefore := by
  obtain ⟨hheaders, hfilter, hexpand, hselect, horderBy, hsearch, -⟩ := r.plain_toDocument
  exact ⟨hheaders, hfilter, hexpand, hselect, horderBy, hsearch, trivial⟩

/-- Around a number, the document of the paging options stays the same. -/
theorem exists_toDocument_set (k : Paging.Amount) (p : Paging) : ∃ before after,
    Document.PlainMembers before ∧ Document.PlainMembers after ∧ ∀ w,
      (k.set (some w) p).toDocument = .object (before ++ (k.name, .ofWord w) :: after) := by
  have hskip := Document.plain_ofOption .ofWord Number.fits64_toNat p.skip
  have htop := Document.plain_ofOption .ofWord Number.fits64_toNat p.top
  have htoken := Document.plain_ofOption .text (fun _ => trivial) p.skipToken
  cases k with
  | skip =>
    exact ⟨[], [("skip_token", _), ("top", _)], trivial, ⟨htoken, htop, trivial⟩, fun _ => rfl⟩
  | top =>
    exact ⟨[("skip", _), ("skip_token", _)], [], ⟨hskip, htoken, trivial⟩, trivial, fun _ => rfl⟩

theorem spell_ofWord (w : UInt64) : Json.spell (.ofWord w) = Nat.toDigits 10 w.toNat := by
  change (toString (w.toNat : Int)).toList = _
  rw [Int.toString_eq_repr, Int.repr_eq_if, if_pos (Int.natCast_nonneg _), Int.toNat_natCast,
    Nat.toList_repr]

/-- What is written for a request with a number has a gap for the number. -/
theorem exists_toJson_setNumber (base : Request) (k : Paging.Amount) :
    ∃ front back fill, Json.Gap front back fill ∧ Slot k fill ∧
      ∀ w, (base.setNumber k (some w)).toJson.toList =
        front ++ Nat.toDigits 10 w.toNat ++ back := by
  obtain ⟨before, after, hbefore, hafter, hpaging⟩ := exists_toDocument_set k base.paging
  obtain ⟨front, back, hinner⟩ := Json.writtenAround_self.object k.name hbefore hafter
  obtain ⟨front, back, houter⟩ := hinner.object "odata_uri" base.plain_membersBefore
    (show Document.PlainMembers [] from trivial)
  refine ⟨front, back, _, houter.toGap, .mk (.member _ _) (.member _ _), fun w => ?_⟩
  have hdocument : (base.setNumber k (some w)).toDocument = .object
      (base.membersBefore ++ [("odata_uri", (k.set (some w) base.paging).toDocument)]) := rfl
  rw [hpaging] at hdocument
  rw [toJson, Json.write, String.toList_ofList, hdocument, ← spell_ofWord]
  exact houter.spell_eq (.ofWord w)

end Request

namespace Section

/-- Around a number, the options that are shown stay the same. -/
theorem exists_shownOptions_setNumber (e : Expressions) (base : Request) (k : Paging.Amount) :
    ∃ before after, ∀ w, shownOptions e (base.setNumber k (some w)) =
      before ++ (k.template e, toString w.toNat) :: after := by
  let others := shownClauses e.filter e.filterDelimiter base.filter ++
    shownText e.search base.searchExpression ++
    shownClauses e.expand e.expandDelimiter base.expand ++
    shownClauses e.select e.selectDelimiter base.select ++
    shownClauses e.orderBy e.orderByDelimiter base.orderBy
  let token := shownText e.skipToken base.paging.skipToken
  cases k with
  | skip =>
    refine ⟨others, token ++ shownNumber e.top base.paging.top, fun w => ?_⟩
    simp [shownOptions, others, token, Request.setNumber, Paging.Amount.set,
      Paging.Amount.template, shownNumber]
  | top =>
    refine ⟨others ++ shownNumber e.skip base.paging.skip ++ token, [], fun w => ?_⟩
    simp [shownOptions, others, token, Request.setNumber, Paging.Amount.set,
      Paging.Amount.template, shownNumber]

theorem exists_shown_setNumber (e : Expressions) (base : Request) (k : Paging.Amount) :
    ∃ head tail : String, ∀ w, shown e (base.setNumber k (some w)) =
      head ++ (k.template e).render ![toString w.toNat] ++ tail := by
  have hheaders (w : UInt64) : (base.setNumber k (some w)).headers = base.headers := rfl
  obtain ⟨before, after, hoptions⟩ := exists_shownOptions_setNumber e base k
  refine ⟨headersText e (shownHeaders base.headers.entries) ++
    String.join (before.map fun option => option.1.render ![option.2]),
    String.join (after.map fun option => option.1.render ![option.2]), fun w => ?_⟩
  simp only [shown, headersText, hheaders, hoptions, List.map_append, List.map_cons,
    String.join_append, String.join_cons, String.append_assoc]

end Section

namespace Request

/-! ## One literal from the text of a request to its section -/

/-- With this number literal between the characters, the text is read as this request. -/
structure ReadsLiteral (front back lit : List Char) (r : Request) : Prop where
  spells : ∃ n, Json.Numeral.Spells lit n
  ok : ofJson (String.ofList (front ++ lit ++ back)) = .ok r

variable {k : Paging.Amount} {fill : Document → Document} {front back : List Char}

/-- **A number literal goes through as it stands.** In a text with a gap for a number, it is
accepted just when it is what is written for an unsigned word. Then it is written again for
the request, and it stands in every place that the template of the number leaves, so that
another literal shows. -/
theorem number_of_literal (hslot : Slot k fill) (hgap : Json.Gap front back fill)
    (hok : ∃ cs d r, Json.Spells cs d ∧ ofJson (String.ofList (front ++ cs ++ back)) = .ok r) :
    (∀ lit n, Json.Numeral.Spells lit n →
      ((∃ r, ofJson (String.ofList (front ++ lit ++ back)) = .ok r) ↔
        Json.Numeral.WordLiteral lit)) ∧
    (∃ front' back' fill', Slot k fill' ∧ Json.Gap front' back' fill' ∧
      ∀ lit r, ReadsLiteral front back lit r → r.toJson.toList = front' ++ lit ++ back') ∧
    ∀ e : Expressions, ∃ tokens, Template.Token.Spell tokens (k.template e).source.toList ∧
      (∃ head tail, ∀ lit r text, ReadsLiteral front back lit r → querySection e r = .ok text →
        text.toList = head ++ (Template.Token.meanings tokens).flatMap (·.filled lit) ++ tail) ∧
      ∀ lit lit' r r' text text', ReadsLiteral front back lit r → ReadsLiteral front back lit' r' →
        querySection e r = .ok text → querySection e r' = .ok text' → lit ≠ lit' →
          (k.template e).Uses 0 → text ≠ text' := by
  obtain ⟨base, hbase⟩ := exists_readsNumber_iff hslot hgap hok
  have hword {lit : List Char} {r : Request} (h : ReadsLiteral front back lit r) :
      ∃ w : UInt64, lit = Nat.toDigits 10 w.toNat ∧ base.setNumber k (some w) = r := by
    obtain ⟨n, hn⟩ := h.spells
    exact (hbase hn).1 h.ok
  refine ⟨fun lit n hn => ?_, ?_, fun e => ?_⟩
  · simp only [hbase hn, Json.Numeral.wordLiteral_iff hn.ne_nil]
    exact ⟨fun ⟨_, w, hw, _⟩ => ⟨w, hw⟩, fun ⟨w, hw⟩ => ⟨_, w, hw, rfl⟩⟩
  · obtain ⟨front', back', fill', hgap', hslot', hwritten⟩ := exists_toJson_setNumber base k
    refine ⟨front', back', fill', hslot', hgap', fun lit r h => ?_⟩
    obtain ⟨w, rfl, rfl⟩ := hword h
    exact hwritten w
  · obtain ⟨head, tail, hshown⟩ := Section.exists_shown_setNumber e base k
    obtain ⟨tokens, hspell⟩ := (k.template e).exists_spell
    have htext {lit : List Char} {r : Request} {text : String} (h : ReadsLiteral front back lit r)
        (hsection : querySection e r = .ok text) : text.toList = head.toList ++
          (Template.Token.meanings tokens).flatMap (·.filled lit) ++ tail.toList := by
      obtain ⟨w, rfl, rfl⟩ := hword h
      obtain ⟨-, rfl⟩ := querySection_eq_ok_iff.1 hsection
      rw [hshown, String.toList_append, String.toList_append,
        Template.toList_render_of_spell hspell]
      change _ ++ (Template.Token.meanings tokens).flatMap (·.filled w.toNat.repr.toList) ++ _ = _
      rw [Nat.toList_repr]
    refine ⟨tokens, hspell, ⟨_, _, fun lit r text => htext⟩, ?_⟩
    intro lit lit' r r' text text' h h' hsection hsection' hne huses heq
    have hdiffer : Template.DifferAt (0 : Fin 1) (fun _ => String.ofList lit)
        (fun _ => String.ofList lit') :=
      ⟨fun he => hne (String.ofList_injective he), fun j hj => absurd (Fin.fin_one_eq_zero j) hj⟩
    refine hdiffer.flatMap_text_ne (Template.uses_iff.1 huses) ?_
    rw [← Template.toList_render, ← Template.toList_render,
      Template.toList_render_of_spell hspell, Template.toList_render_of_spell hspell,
      String.toList_ofList, String.toList_ofList]
    have hsame := (htext h hsection).symm.trans ((congrArg String.toList heq).trans
      (htext h' hsection'))
    exact List.append_cancel_left (List.append_cancel_right hsame)

/-- The largest word and one more, a number with a sign, and two literals that begin alike. -/
theorem number_of_literal_top :
    (∃ r, ofJson "\x7b\"odata_uri\":\x7b\"top\": 18446744073709551615\x7d\x7d" = .ok r) ∧
    (¬ ∃ r, ofJson "\x7b\"odata_uri\":\x7b\"top\": 18446744073709551616\x7d\x7d" = .ok r) ∧
    (¬ ∃ r, ofJson "\x7b\"odata_uri\":\x7b\"top\": -0\x7d\x7d" = .ok r) ∧
    ∃ r r' text text', ofJson "\x7b\"odata_uri\":\x7b\"top\": 7\x7d\x7d" = .ok r ∧
      ofJson "\x7b\"odata_uri\":\x7b\"top\": 70\x7d\x7d" = .ok r' ∧
      querySection Language.csharp.expressions r = .ok text ∧
      querySection Language.csharp.expressions r' = .ok text' ∧ text ≠ text' := by
  have hgap := (((Json.gap_self.padded (List.forall_mem_singleton.2 (rfl : Json.isBlank ' '))
    Json.blanks_nil).member Json.blanks_nil (Json.spellsText_writeText "top")
      Json.blanks_nil).object.member Json.blanks_nil (Json.spellsText_writeText "odata_uri")
        Json.blanks_nil).object
  have hslot : Slot .top _ := .mk (.member [] []) (.member [] [])
  have hnull := ofJson_of_spells (hgap.spells .null) (rfl : record.read _ = .ok {})
  obtain ⟨hiff, -, hsection⟩ := number_of_literal hslot hgap ⟨_, _, _, .null, hnull⟩
  have hdigits (w : UInt64) := Json.Numeral.spells_toDigits w.toNat
  refine ⟨?_, ?_, ?_, ?_⟩
  · exact (hiff _ _ (hdigits 18446744073709551615)).2 (Json.Numeral.wordLiteral_toDigits _)
  · intro h
    exact absurd ((hiff _ _ (Json.Numeral.spells_toDigits 18446744073709551616)).1 h).lt (by decide)
  · intro h
    have hminus := ((hiff _ _ (Json.Numeral.spells_minus_toDigits 0)).1 h).isDigit '-' (.head _)
    exact absurd hminus (by decide)
  · have hread (w : UInt64) (hw : record.read _ = .ok { paging := { top := some w } }) :=
      ofJson_of_spells (hgap.spells (.number (hdigits w))) hw
    have htext (w : UInt64) : querySection Language.csharp.expressions
        { paging := { top := some w } } = .ok _ :=
      querySection_of_hasValues _ Section.hasValues_nil
    have huses : Language.csharp.expressions.top.Uses 0 := Template.uses_iff.2 (by decide +kernel)
    obtain ⟨-, -, -, hdiffer⟩ := hsection Language.csharp.expressions
    exact ⟨_, _, _, _, hread 7 rfl, hread 70 rfl, htext 7, htext 70,
      hdiffer _ _ _ _ _ _ ⟨⟨_, hdigits 7⟩, hread 7 rfl⟩ ⟨⟨_, hdigits 70⟩, hread 70 rfl⟩
        (htext 7) (htext 70) (by decide) huses⟩

end Request

end QuerySnippet
