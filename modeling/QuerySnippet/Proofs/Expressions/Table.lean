/-
Tables of expressions in two notations.

A table is given by texts under names. Whether a JSON object or a TOML
document holds the texts, and in which order, makes no difference: it is read
as a table when every template is there and fits the number of arguments of its
place, and then the table has just these texts. Names that no part of a table
has are passed over.
-/
import QuerySnippet.Proofs.Document.Denote
import QuerySnippet.Proofs.Section
import QuerySnippet.Proofs.Template.Arity

namespace QuerySnippet

namespace Expressions

/-- No two fields of a table change the same part of it. -/
theorem independent_fields : record.fields.Pairwise Field.Independent := by
  unfold record
  simp only [List.pairwise_cons, List.forall_mem_cons, List.not_mem_nil, false_imp_iff,
    implies_true, List.Pairwise.nil, and_true]
  and_intros
  all_goals exact Field.independent_of (by decide) fun _ _ _ => rfl

/-- A template for `n` arguments is given under the name. -/
def GivesTemplate (given : String → Option String) (n : Nat) (name : String) : Prop :=
  ∃ text t, given name = some text ∧ Template.parse n text = .ok t

/-- Every template is given: that of a header for two arguments, each of the others for one. -/
structure Complete (given : String → Option String) : Prop where
  header : GivesTemplate given 2 "header"
  filter : GivesTemplate given 1 "filter"
  search : GivesTemplate given 1 "search"
  expand : GivesTemplate given 1 "expand"
  select : GivesTemplate given 1 "select"
  orderBy : GivesTemplate given 1 "order_by"
  skip : GivesTemplate given 1 "skip"
  skipToken : GivesTemplate given 1 "skip_token"
  top : GivesTemplate given 1 "top"

/-- The draft has the templates that are given and no others, and a delimiter that is not given is
empty. -/
structure Draft.Holds (given : String → Option String) (d : Draft) : Prop where
  header : given "header" = d.header.map (·.source)
  filter : given "filter" = d.filter.map (·.source)
  search : given "search" = d.search.map (·.source)
  expand : given "expand" = d.expand.map (·.source)
  select : given "select" = d.select.map (·.source)
  orderBy : given "order_by" = d.orderBy.map (·.source)
  skip : given "skip" = d.skip.map (·.source)
  skipToken : given "skip_token" = d.skipToken.map (·.source)
  top : given "top" = d.top.map (·.source)
  filterDelimiter : (given "filter_delimiter").getD "" = d.filterDelimiter
  expandDelimiter : (given "expand_delimiter").getD "" = d.expandDelimiter
  selectDelimiter : (given "select_delimiter").getD "" = d.selectDelimiter
  orderByDelimiter : (given "order_by_delimiter").getD "" = d.orderByDelimiter

/-- The draft that has all of a table. -/
def Draft.full (e : Expressions) : Draft where
  header := some e.header
  filter := some e.filter
  search := some e.search
  expand := some e.expand
  select := some e.select
  orderBy := some e.orderBy
  skip := some e.skip
  skipToken := some e.skipToken
  top := some e.top
  filterDelimiter := e.filterDelimiter
  expandDelimiter := e.expandDelimiter
  selectDelimiter := e.selectDelimiter
  orderByDelimiter := e.orderByDelimiter

/-- Every text of the table is the one that is given, and a delimiter that is not given is empty. -/
def Holds (given : String → Option String) (e : Expressions) : Prop := (Draft.full e).Holds given

/-- The names of the parts of a table. -/
def names : List String := [
  "header", "filter", "search", "expand", "select", "order_by", "skip", "skip_token", "top",
  "filter_delimiter", "expand_delimiter", "select_delimiter", "order_by_delimiter"]

variable {given : String → Option String} {e : Expressions}

/-! ## Drafts -/

theorem required_eq_ok {α : Type} {name : String} {a? : Option α} {a : α} :
    required name a? = .ok a ↔ a? = some a := by
  cases a? <;> simp [required]

/-- Nothing but the draft with all of a table is finished. -/
theorem Draft.finish_eq_ok_iff {d : Draft} : d.finish = .ok e ↔ d = .full e := by
  constructor
  · intro h
    obtain ⟨header, hheader, h⟩ := Except.bind_eq_ok.1 h
    obtain ⟨filter, hfilter, h⟩ := Except.bind_eq_ok.1 h
    obtain ⟨search, hsearch, h⟩ := Except.bind_eq_ok.1 h
    obtain ⟨expand, hexpand, h⟩ := Except.bind_eq_ok.1 h
    obtain ⟨select, hselect, h⟩ := Except.bind_eq_ok.1 h
    obtain ⟨orderBy, horderBy, h⟩ := Except.bind_eq_ok.1 h
    obtain ⟨skip, hskip, h⟩ := Except.bind_eq_ok.1 h
    obtain ⟨skipToken, hskipToken, h⟩ := Except.bind_eq_ok.1 h
    obtain ⟨top, htop, h⟩ := Except.bind_eq_ok.1 h
    rw [required_eq_ok] at hheader hfilter hsearch hexpand hselect horderBy hskip hskipToken htop
    obtain ⟨_, _, _, _, _, _, _, _, _, _, _, _, _⟩ := d
    subst hheader hfilter hsearch hexpand hselect horderBy hskip hskipToken htop
    cases h
    rfl
  · rintro rfl
    rfl

/-- The documents of the texts that are given. -/
def valueOf (given : String → Option String) (name : String) : Option Document :=
  (given name).map .text

theorem readTemplate_text {n : Nat} {text : String} {t : Template n} :
    (Document.text text).readTemplate n = .ok t ↔ text = t.source := by
  rw [Template.readTemplate_eq_ok_iff, Document.text.injEq]

section Fields

variable {draft final : Draft} {name : String} {fields : List (Field Draft)}

/-- A template field puts what is given, if anything is, in its place of the draft. -/
theorem readFields_template {n : Nat} {put : Template n → Draft → Draft}
    (place : Option (Template n) → Draft) (hput : ∀ t, put t (place none) = place (some t)) :
    Record.readFields (valueOf given) (place none)
        (.of name (Document.readTemplate n) put :: fields) = .ok final ↔
      ∃ t? : Option (Template n), given name = t?.map (·.source) ∧
        Record.readFields (valueOf given) (place t?) fields = .ok final := by
  cases hgiven : given name with
  | none =>
    have hvalue : valueOf given name = none := by rw [valueOf, hgiven]; rfl
    rw [Record.readFields_cons_of_none hvalue]
    constructor
    · exact fun h => ⟨none, rfl, h⟩
    · rintro ⟨_ | t, ht, h⟩
      · exact h
      · cases ht
  | some text =>
    have hvalue : valueOf given name = some (.text text) := by rw [valueOf, hgiven]; rfl
    rw [Record.readFields_cons_eq_ok_iff hvalue]
    simp only [Field.read_of_eq_ok_iff, readTemplate_text]
    constructor
    · rintro ⟨_, ⟨t, rfl, rfl⟩, h⟩
      exact ⟨some t, rfl, hput t ▸ h⟩
    · rintro ⟨_ | t, ht, h⟩
      · cases ht
      · exact ⟨_, ⟨t, Option.some.inj ht, rfl⟩, (hput t).symm ▸ h⟩

/-- A delimiter field puts in what is given, or nothing. -/
theorem readFields_delimiter {put : String → Draft → Draft} (hblank : put "" draft = draft) :
    Record.readFields (valueOf given) draft (.of name Document.readText put :: fields) =
      Record.readFields (valueOf given) (put ((given name).getD "") draft) fields := by
  cases hgiven : given name with
  | none =>
    have hvalue : valueOf given name = none := by rw [valueOf, hgiven]; rfl
    rw [Record.readFields_cons_of_none hvalue, Option.getD_none, hblank]
  | some text =>
    have hvalue : valueOf given name = some (.text text) := by rw [valueOf, hgiven]; rfl
    rw [Record.readFields]
    simp only [Field.of, hvalue]
    rfl

end Fields

/-- A draft holds what is given, and nothing else. -/
theorem Draft.holds_of_readFields {d : Draft}
    (h : Record.readFields (valueOf given) {} record.fields = .ok d) : d.Holds given := by
  -- field by field: the places before it are filled, its own is open, and the others are blank
  obtain ⟨header, hheader, h⟩ := (readFields_template
    (fun t? => { header := t? }) fun _ => rfl).1 h
  obtain ⟨filter, hfilter, h⟩ := (readFields_template
    (fun t? => { header, filter := t? }) fun _ => rfl).1 h
  obtain ⟨search, hsearch, h⟩ := (readFields_template
    (fun t? => { header, filter, search := t? }) fun _ => rfl).1 h
  obtain ⟨expand, hexpand, h⟩ := (readFields_template
    (fun t? => { header, filter, search, expand := t? }) fun _ => rfl).1 h
  obtain ⟨select, hselect, h⟩ := (readFields_template
    (fun t? => { header, filter, search, expand, select := t? }) fun _ => rfl).1 h
  obtain ⟨orderBy, horderBy, h⟩ := (readFields_template
    (fun t? => { header, filter, search, expand, select, orderBy := t? }) fun _ => rfl).1 h
  obtain ⟨skip, hskip, h⟩ := (readFields_template
    (fun t? => { header, filter, search, expand, select, orderBy, skip := t? }) fun _ => rfl).1 h
  obtain ⟨skipToken, hskipToken, h⟩ := (readFields_template
    (fun t? => { header, filter, search, expand, select, orderBy, skip, skipToken := t? })
    fun _ => rfl).1 h
  obtain ⟨top, htop, h⟩ := (readFields_template
    (fun t? => { header, filter, search, expand, select, orderBy, skip, skipToken, top := t? })
    fun _ => rfl).1 h
  rw [readFields_delimiter rfl, readFields_delimiter rfl, readFields_delimiter rfl,
    readFields_delimiter rfl] at h
  cases Except.ok.inj h
  exact ⟨hheader, hfilter, hsearch, hexpand, hselect, horderBy, hskip, hskipToken, htop, rfl, rfl,
    rfl, rfl⟩

/-! ## Complete tables -/

theorem complete_of_holds (h : Holds given e) : Complete given where
  header := ⟨_, _, h.header, e.header.parse_source⟩
  filter := ⟨_, _, h.filter, e.filter.parse_source⟩
  search := ⟨_, _, h.search, e.search.parse_source⟩
  expand := ⟨_, _, h.expand, e.expand.parse_source⟩
  select := ⟨_, _, h.select, e.select.parse_source⟩
  orderBy := ⟨_, _, h.orderBy, e.orderBy.parse_source⟩
  skip := ⟨_, _, h.skip, e.skip.parse_source⟩
  skipToken := ⟨_, _, h.skipToken, e.skipToken.parse_source⟩
  top := ⟨_, _, h.top, e.top.parse_source⟩

/-- Where every template is given, every field can be read. -/
theorem readable_of_complete (hc : Complete given) : ∀ field ∈ record.fields, ∀ d,
    valueOf given field.name = some d → ∃ update, field.read d = .ok update := by
  have htemplate : ∀ {n : Nat} {name : String} {put : Template n → Draft → Draft},
      GivesTemplate given n name → ∀ d, valueOf given name = some d →
        ∃ update, (Field.of name (Document.readTemplate n) put).read d = .ok update := by
    rintro n name put ⟨text, t, hgiven, ht⟩ d hd
    rw [valueOf, hgiven] at hd
    cases hd
    exact ⟨put t, Field.read_of (readTemplate_text.2 (Template.parse_eq_ok_iff.1 ht))⟩
  have hdelimiter : ∀ {name : String} {put : String → Draft → Draft} d,
      valueOf given name = some d →
        ∃ update, (Field.of name Document.readText put).read d = .ok update := by
    intro name put d hd
    obtain ⟨text, -, rfl⟩ := Option.map_eq_some_iff.1 hd
    exact ⟨put text, rfl⟩
  simp only [record, List.forall_mem_cons]
  exact ⟨htemplate hc.header, htemplate hc.filter, htemplate hc.search, htemplate hc.expand,
    htemplate hc.select, htemplate hc.orderBy, htemplate hc.skip, htemplate hc.skipToken,
    htemplate hc.top, hdelimiter, hdelimiter, hdelimiter, hdelimiter, nofun⟩

/-- A draft that holds all templates is that of a table. -/
theorem exists_eq_full (hc : Complete given) {d : Draft} (h : d.Holds given) :
    ∃ e, d = .full e := by
  have hplace : ∀ {n m : Nat} {name : String} {t? : Option (Template n)},
      GivesTemplate given m name → given name = t?.map (·.source) → ∃ t, t? = some t := by
    rintro n m name t? ⟨text, -, hgiven, -⟩ ht
    obtain ⟨t, ht, -⟩ := Option.map_eq_some_iff.1 (ht.symm.trans hgiven)
    exact ⟨t, ht⟩
  obtain ⟨header, hheader⟩ := hplace hc.header h.header
  obtain ⟨filter, hfilter⟩ := hplace hc.filter h.filter
  obtain ⟨search, hsearch⟩ := hplace hc.search h.search
  obtain ⟨expand, hexpand⟩ := hplace hc.expand h.expand
  obtain ⟨select, hselect⟩ := hplace hc.select h.select
  obtain ⟨orderBy, horderBy⟩ := hplace hc.orderBy h.orderBy
  obtain ⟨skip, hskip⟩ := hplace hc.skip h.skip
  obtain ⟨skipToken, hskipToken⟩ := hplace hc.skipToken h.skipToken
  obtain ⟨top, htop⟩ := hplace hc.top h.top
  clear h
  obtain ⟨_, _, _, _, _, _, _, _, _, _, _, _, _⟩ := d
  subst hheader hfilter hsearch hexpand hselect horderBy hskip hskipToken htop
  exact ⟨⟨header, filter, search, expand, select, orderBy, skip, skipToken, top, _, _, _, _⟩, rfl⟩

/-- A table is read from the members just when its fields are. -/
theorem ofMembers_textMembers {entries : List (String × String)}
    (hd : (entries.map (·.1)).Nodup) : record.ofMembers (textMembers entries) = .ok e ↔
      Record.readFields (valueOf (entries.lookup ·)) {} record.fields = .ok (.full e) := by
  have hdistinct : ((textMembers entries).map (·.1)).Nodup := by
    rwa [textMembers, List.map_map]
  have hlookup : ((textMembers entries).lookup ·) = valueOf (entries.lookup ·) :=
    funext (lookup_map_values Document.text entries)
  rw [Record.ofMembers_eq_ok_iff independent_fields hdistinct, hlookup]
  constructor
  · rintro ⟨final, hread, hfinish⟩
    exact Draft.finish_eq_ok_iff.1 hfinish ▸ hread
  · exact fun hread => ⟨_, hread, Draft.finish_eq_ok_iff.2 rfl⟩

/-- **A table is the same in both notations.** It is read from texts just when all of its templates
are among them, and has these texts whatever else there is. With such a table nothing but a header
without values keeps a request from its section. -/
theorem ofToml_agrees_with_ofJson {entries : List (String × String)} {toml json : String}
    (hd : (entries.map (·.1)).Nodup) (htoml : Toml.Denotes toml entries)
    (hjson : Json.Denotes json entries) :
    (Complete (entries.lookup ·) → ∃ e, ofToml toml = .ok e ∧ ofJson json = .ok e ∧
      Holds (entries.lookup ·) e) ∧
    (¬ Complete (entries.lookup ·) →
      (∃ error, ofToml toml = .error error) ∧ ∃ error, ofJson json = .error error) ∧
    (∀ entries' toml' json', (entries'.map (·.1)).Nodup →
      (∀ name ∈ names, entries'.lookup name = entries.lookup name) →
      Toml.Denotes toml' entries' → Json.Denotes json' entries' → ∀ e,
        (ofToml toml' = .ok e ↔ ofToml toml = .ok e) ∧
        (ofJson json' = .ok e ↔ ofJson json = .ok e)) ∧
    (∀ e, ofToml toml = .ok e ∨ ofJson json = .ok e → ∀ r error,
      querySection e r = .error error → ∃ before name after,
        r.headers.entries = before ++ (name, []) :: after ∧ Section.HasValues before ∧
          ¬ Section.NamesHost name ∧ error = .missingHeaderValue name) := by
  have hread : ∀ {entries : List (String × String)} {toml json : String},
      (entries.map (·.1)).Nodup → Toml.Denotes toml entries → Json.Denotes json entries → ∀ e,
        (ofToml toml = .ok e ↔
          Record.readFields (valueOf (entries.lookup ·)) {} record.fields = .ok (.full e)) ∧
        (ofJson json = .ok e ↔
          Record.readFields (valueOf (entries.lookup ·)) {} record.fields = .ok (.full e)) :=
    fun hd htoml hjson e =>
      ⟨(Toml.decode_eq_ok_iff independent_fields hd htoml).trans (ofMembers_textMembers hd),
        (Json.decode_eq_ok_iff independent_fields hd hjson).trans (ofMembers_textMembers hd)⟩
  refine ⟨fun hc => ?complete, fun hc => ?incomplete, ?others, fun e _ r error => ?failure⟩
  case complete =>
    obtain ⟨d, hd'⟩ := Record.exists_readFields_iff.2 (readable_of_complete hc)
    obtain ⟨e, rfl⟩ := exists_eq_full hc (Draft.holds_of_readFields hd')
    obtain ⟨htoml', hjson'⟩ := hread hd htoml hjson e
    exact ⟨e, htoml'.2 hd', hjson'.2 hd', Draft.holds_of_readFields hd'⟩
  case incomplete =>
    have hnone : ∀ e, ¬ Record.readFields (valueOf (entries.lookup ·)) {} record.fields =
        .ok (.full e) := fun e h => hc (complete_of_holds (Draft.holds_of_readFields h))
    constructor
    · cases htoml' : ofToml toml with
      | error error => exact ⟨error, rfl⟩
      | ok e => exact absurd ((hread hd htoml hjson e).1.1 htoml') (hnone e)
    · cases hjson' : ofJson json with
      | error error => exact ⟨error, rfl⟩
      | ok e => exact absurd ((hread hd htoml hjson e).2.1 hjson') (hnone e)
  case others =>
    intro entries' toml' json' hd' hsame htoml' hjson' e
    have hnames : ∀ field ∈ record.fields, field.name ∈ names := by
      simp only [record, List.forall_mem_cons]
      decide
    have hfields : Record.readFields (valueOf (entries'.lookup ·)) {} record.fields =
        Record.readFields (valueOf (entries.lookup ·)) {} record.fields :=
      Record.readFields_congr fun field h =>
        congrArg (Option.map Document.text) (hsame field.name (hnames field h))
    obtain ⟨ht, hj⟩ := hread hd htoml hjson e
    obtain ⟨ht', hj'⟩ := hread hd' htoml' hjson' e
    rw [ht, hj, ht', hj', hfields]
    exact ⟨Iff.rfl, Iff.rfl⟩
  case failure => exact exists_missing_of_querySection_eq_error

/-- Texts for a table, one of them under a name that no part of a table has. -/
def sampleEntries : List (String × String) := [
  ("filter", "\t"), ("top", ""), ("header", "\x7b1\x7d"), ("search", ""), ("expand", ""),
  ("select", ""), ("order_by", ""), ("skip", "%d"), ("skip_token", ""), ("author", "\x7b"),
  ("select_delimiter", ",")]

/-- The texts in TOML, in another order. -/
def sampleToml : String :=
  "top=''\nheader='\x7b1\x7d'\nfilter=\"\\t\"\nsearch=''\nexpand=''\nselect=''\n"
    ++ "order_by=''\nskip='%d'\nskip_token=''\nauthor='\x7b'\nselect_delimiter=','\n"

/-- All templates are given, or the header alone. -/
theorem ofToml_agrees_with_ofJson_of_sample :
    (∃ e, ofToml sampleToml = .ok e ∧
      ofJson (Json.write (.object (textMembers sampleEntries))) = .ok e ∧
      e.header.source = "\x7b1\x7d" ∧ e.filter.source = "\t" ∧ e.filterDelimiter = "" ∧
      e.selectDelimiter = ",") ∧
    (∃ error, ofToml "header='\x7b1\x7d'" = .error error) := by
  have htoml : Toml.Denotes sampleToml sampleEntries := by
    have htexts : ((Toml.parse .dotted sampleToml.toList).bind Toml.Value.texts?).any
        (·.Perm sampleEntries) = true := by decide +kernel
    obtain ⟨texts, htexts, hperm⟩ := (Option.any_eq_true _ _).1 htexts
    exact ⟨texts, htexts, of_decide_eq_true hperm⟩
  have hheader : Toml.Denotes "header='\x7b1\x7d'" [("header", "\x7b1\x7d")] := by
    have htexts : (Toml.parse .dotted "header='\x7b1\x7d'".toList).bind Toml.Value.texts? =
        some [("header", "\x7b1\x7d")] := by decide +kernel
    exact ⟨_, htexts, .refl _⟩
  have hgives : ∀ {n : Nat} {name text : String}, sampleEntries.lookup name = some text →
      (Template.parse n text).isOk = true → GivesTemplate (sampleEntries.lookup ·) n name := by
    intro n name text hgiven hok
    cases ht : Template.parse n text with
    | ok t => exact ⟨text, t, hgiven, ht⟩
    | error e =>
      rw [ht] at hok
      cases hok
  have hcomplete : Complete (sampleEntries.lookup ·) := by
    constructor <;> exact hgives rfl (by decide +kernel)
  have hincomplete : ¬ Complete (List.lookup · [("header", "\x7b1\x7d")]) := by
    intro h
    obtain ⟨text, t, hgiven, -⟩ := h.filter
    cases hgiven
  obtain ⟨e, he, he', hholds⟩ :=
    (ofToml_agrees_with_ofJson (by decide) htoml (Json.denotes_write sampleEntries)).1 hcomplete
  obtain ⟨herror, -⟩ :=
    (ofToml_agrees_with_ofJson (by decide) hheader (Json.denotes_write _)).2.1 hincomplete
  refine ⟨⟨e, he, he', ?_, ?_, ?_, ?_⟩, herror⟩
  · exact (Option.some.inj hholds.header).symm
  · exact (Option.some.inj hholds.filter).symm
  · exact hholds.filterDelimiter.symm
  · exact hholds.selectDelimiter.symm

end Expressions

end QuerySnippet
