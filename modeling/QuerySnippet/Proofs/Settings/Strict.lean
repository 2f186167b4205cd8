/-
Settings that are read strictly are read loosely to the same.

The strict reader takes texts and truth values only, each where it belongs, and no conversion
changes those. So a layer of such members makes the settings that the record makes of them
(`ofLayer_of_ofMembers`), and the text of a file means the same to both readers
(`ofLayer_of_ofToml`). Both find the file if its name has the extension and its path can be
followed from the root (`load_of_ofFile`). A path may be too long for that and still be good
enough for the strict reader (`ofFile_of_detour`).
-/
import Mathlib.Data.List.Nodup
import QuerySnippet.Proofs.Document.Denote
import QuerySnippet.Proofs.Settings.Layer
import QuerySnippet.Proofs.Settings.Locate
import QuerySnippet.Proofs.Toml.Flat

namespace QuerySnippet.Settings

open Toml (Value)

variable {members : List (String × Value)} {s : Settings}

/-! ## Values that stay as they are -/

theorem eq_text_of_readText {value : Value} {text : String}
    (h : value.toDocument.readText = .ok text) : value = .text text := by
  cases value <;> cases h
  rfl

theorem eq_text_of_readPath {value : Value} {text : String}
    (h : readPath value.toDocument = .ok text) : value = .text text := by
  cases value <;> cases h
  rfl

theorem eq_boolean_of_readBoolean {value : Value} {b : Bool}
    (h : value.toDocument.readBoolean = .ok b) : value = .boolean b := by
  cases value <;> cases h
  rfl

/-- No value is null. -/
theorem readOptional_eq_ok_iff {α : Type} {read : Document → Except Fault α} {value : Value}
    {o : Option α} : value.toDocument.readOptional read = .ok o ↔
      ∃ a, read value.toDocument = .ok a ∧ some a = o := by
  have hsome : value.toDocument.readOptional read = some <$> read value.toDocument := by
    cases value <;> rfl
  rw [hsome, Except.map_eq_ok]

theorem looseText_of_readText {value : Value} {text : String}
    (h : value.toDocument.readText = .ok text) : looseText (.ofToml value) = .ok text := by
  rw [eq_text_of_readText h]
  rfl

theorem looseOptional_of_readOptional {read : Document → Except Fault String}
    (hread : ∀ {value : Value} {text}, read value.toDocument = .ok text → value = .text text)
    {value : Value} {text : Option String} (h : value.toDocument.readOptional read = .ok text) :
    looseOptional looseText (.ofToml value) = .ok text := by
  obtain ⟨t, ht, rfl⟩ := readOptional_eq_ok_iff.1 h
  rw [hread ht]
  rfl

theorem looseBoolean_of_readBoolean {value : Value} {b : Bool}
    (h : value.toDocument.readBoolean = .ok b) : looseBoolean (.ofToml value) = .ok b := by
  rw [eq_boolean_of_readBoolean h]
  rfl

/-- What is read strictly of a member, if there is one, is read loosely too when it is of a value. -/
theorem mapM_loose {α : Type} {read : Document → Except Fault α} {loose : Loose → Except Error α}
    (hread : ∀ {value : Value} {a}, read value.toDocument = .ok a → loose (.ofToml value) = .ok a)
    {value : Option Value} {a : Option α} (h : (value.map Value.toDocument).mapM read = .ok a) :
    (value.map Loose.ofToml).mapM loose = .ok a := by
  cases value with
  | none => cases h; rfl
  | some value =>
    obtain ⟨a, ha, rfl⟩ := Except.map_eq_ok.1 h
    exact Except.map_eq_ok.2 ⟨a, hread ha, rfl⟩

/-- Every field takes texts or truth values only. -/
theorem word_of_read {field : Field Settings} (hfield : field ∈ record.fields) {value : Value}
    {update : Settings → Settings} (h : field.read value.toDocument = .ok update) :
    (∃ text, value = .text text) ∨ ∃ b, value = .boolean b := by
  simp only [record, List.mem_cons, List.not_mem_nil, or_false] at hfield
  rcases hfield with rfl | rfl | rfl | rfl
  · obtain ⟨text, htext, -⟩ := Field.read_of_eq_ok_iff.1 h
    exact .inl ⟨text, eq_text_of_readText htext⟩
  · obtain ⟨text, htext, -⟩ := Field.read_of_eq_ok_iff.1 h
    obtain ⟨text, htext, -⟩ := readOptional_eq_ok_iff.1 htext
    exact .inl ⟨text, eq_text_of_readPath htext⟩
  · obtain ⟨b, hb, -⟩ := Field.read_of_eq_ok_iff.1 h
    exact .inr ⟨b, eq_boolean_of_readBoolean hb⟩
  · obtain ⟨text, htext, -⟩ := Field.read_of_eq_ok_iff.1 h
    obtain ⟨text, htext, -⟩ := readOptional_eq_ok_iff.1 htext
    exact .inl ⟨text, eq_text_of_readText htext⟩

/-! ## The record and the layer -/

theorem independent_fields : record.fields.Pairwise Field.Independent := by
  simp [record, Field.independent_of]

/-- Settings are what stands under the names of their fields, if no name comes twice. -/
theorem ofMembers_record_eq_ok_iff {members : List (String × Document)}
    (hdistinct : (members.map (·.1)).Nodup) : record.ofMembers members = .ok s ↔
      ∃ language, (members.lookup "language").mapM Document.readText = .ok language ∧
      ∃ file, (members.lookup "expressions_file").mapM (·.readOptional readPath) = .ok file ∧
      ∃ classNames, (members.lookup "class_names").mapM Document.readBoolean = .ok classNames ∧
      ∃ level, (members.lookup "log_level").mapM (·.readOptional Document.readText) = .ok level ∧
        s = ⟨language.getD "csharp", file.join, classNames.getD false, level.join⟩ := by
  rw [Record.ofMembers_eq_ok_iff independent_fields hdistinct]
  simp only [record, Record.readFields_of_eq_ok_iff]
  simp only [Record.readFields, Except.ok.injEq]
  constructor
  · rintro ⟨_, ⟨language, hlanguage, file, hfile, classNames, hclassNames, level, hlevel, rfl⟩, rfl⟩
    refine ⟨language, hlanguage, file, hfile, classNames, hclassNames, level, hlevel, ?_⟩
    cases language <;> cases file <;> cases classNames <;> cases level <;> rfl
  · rintro ⟨language, hlanguage, file, hfile, classNames, hclassNames, level, hlevel, rfl⟩
    refine ⟨_, ⟨language, hlanguage, file, hfile, classNames, hclassNames, level, hlevel, rfl⟩, ?_⟩
    cases language <;> cases file <;> cases classNames <;> cases level <;> rfl

/-- The layer of the members of a TOML text. -/
def layerOf (members : List (String × Value)) : Layer :=
  members.map fun (name, value) => (name, .ofToml value)

theorem path?_of_mem_layerOf (hpath : ∀ member ∈ members, path? member.1 = none) :
    ∀ entry ∈ layerOf members, path? entry.1 = none :=
  List.forall_mem_map.2 hpath

theorem value?_layerOf (hdistinct : (members.map (·.1)).Nodup)
    (hpath : ∀ member ∈ members, path? member.1 = none) (name : String) :
    (layerOf members).value? name = (members.lookup name).map Loose.ofToml := by
  have hentries : ((layerOf members).map fun entry => entryOf entry.1 entry.2) =
      layerOf members := by
    refine (List.map_congr_left fun entry hentry => ?_).trans (List.map_id _)
    simp only [entryOf, path?_of_mem_layerOf hpath entry hentry, id]
  have hdistinct' : ((layerOf members).map (·.1)).Nodup := by
    rwa [layerOf, List.map_map]
  change ((layerOf members).map fun entry => entryOf entry.1 entry.2).reverse.lookup name = _
  rw [hentries, ← congrFun (lookup_eq_of_perm (List.reverse_perm _).symm hdistinct') name]
  exact lookup_map_values Loose.ofToml ..

theorem checkPositions_of_path? {loader : Loader} {layer : Layer}
    (hpath : ∀ entry ∈ layer, path? entry.1 = none) : loader.checkPositions layer = .ok () :=
  Except.forM_eq_ok_iff.2 fun entry hentry => by simp only [hpath entry hentry]

/-- **Members that the record takes make the same settings as a layer.** -/
theorem ofLayer_of_ofMembers {loader : Loader} (hdistinct : (members.map (·.1)).Nodup)
    (hpath : ∀ member ∈ members, path? member.1 = none)
    (h : record.ofMembers (Value.memberDocuments members) = .ok s) :
    ofLayer loader (layerOf members) = .ok s := by
  have hdistinct' : ((Value.memberDocuments members).map (·.1)).Nodup := by
    rwa [Value.memberDocuments_eq_map, List.map_map]
  obtain ⟨language, hlanguage, file, hfile, classNames, hclassNames, level, hlevel, hs⟩ :=
    (ofMembers_record_eq_ok_iff hdistinct').1 h
  rw [Value.memberDocuments_eq_map] at hlanguage hfile hclassNames hlevel
  rw [lookup_map_values] at hlanguage hfile hclassNames hlevel
  refine ofLayer_eq_ok_iff.2 ⟨checkPositions_of_path? (path?_of_mem_layerOf hpath), ?_⟩
  simp only [value?_layerOf hdistinct hpath]
  exact ⟨language, mapM_loose looseText_of_readText hlanguage,
    file, mapM_loose (looseOptional_of_readOptional eq_text_of_readPath) hfile,
    classNames, mapM_loose looseBoolean_of_readBoolean hclassNames,
    level, mapM_loose (looseOptional_of_readOptional eq_text_of_readText) hlevel, hs⟩

/-! ## Texts -/

/-- Members that are texts and truth values are read from a text by the loose reader too. -/
theorem layer_ofToml_of_parse {text : String}
    (hparse : Toml.parse .dotted text.toList = some (.table members))
    (hwords : ∀ member ∈ members, (∃ text, member.2 = .text text) ∨ ∃ b, member.2 = .boolean b) :
    Layer.ofToml text = .ok (layerOf members) := by
  have hatoms : ∀ member ∈ members, member.2.isAtom = true := fun member hmember => by
    obtain ⟨text, hvalue⟩ | ⟨b, hvalue⟩ := hwords member hmember
    all_goals
      rw [hvalue]
      rfl
  have hnumbers : Value.allMemberNumbers (Number.fitsSigned 64) members = true := by
    clear hparse hatoms
    induction members with
    | nil => rfl
    | cons member members ih =>
      obtain ⟨name, value⟩ := member
      obtain ⟨hfirst, hrest⟩ := List.forall_mem_cons.1 hwords
      obtain ⟨text, rfl⟩ | ⟨b, rfl⟩ := hfirst
      all_goals exact ih hrest
  rw [Layer.ofToml, Toml.parse_implied_of_flat hparse hatoms]
  exact if_pos hnumbers

/-- The names of settings. -/
def names : List String := ["language", "expressions_file", "class_names", "log_level"]

/-- **A text that the strict reader takes makes the same settings as a layer**, if it gives no other
names. -/
theorem ofLayer_of_ofToml (loader : Loader) {text : String}
    (hnames : ∀ members, Toml.parse .dotted text.toList = some (.table members) →
      members.map (·.1) ⊆ names) (h : ofToml text = .ok s) :
    ∃ layer, Layer.ofToml text = .ok layer ∧ ofLayer loader layer = .ok s := by
  obtain ⟨members, hparse, -, hmembers⟩ := (Toml.decode_record_eq_ok_iff independent_fields).1 h
  have hname : ∀ member ∈ members, member.1 ∈ names := fun member hmember =>
    hnames members hparse (List.mem_map_of_mem hmember)
  have hknown : ∀ member ∈ Value.memberDocuments members,
      (record.field? member.1).isSome = true := by
    have hall : ∀ name ∈ names, (record.field? name).isSome = true := by decide +kernel
    rw [Value.memberDocuments_eq_map, List.forall_mem_map]
    exact fun member hmember => hall _ (hname member hmember)
  have hpath : ∀ member ∈ members, path? member.1 = none := by
    have hall : ∀ name ∈ names, path? name = none := by decide +kernel
    exact fun member hmember => hall _ (hname member hmember)
  obtain ⟨final, hfinal, -⟩ := Record.ofMembers_eq_ok_iff_draft.1 hmembers
  obtain ⟨hdistinct, -, hreads⟩ := Record.nodup_of_readMembers hknown hfinal
  rw [Value.memberDocuments_eq_map, List.map_map] at hdistinct
  rw [Value.memberDocuments_eq_map, List.forall_mem_map] at hreads
  refine ⟨layerOf members, layer_ofToml_of_parse hparse fun member hmember => ?_,
    ofLayer_of_ofMembers hdistinct hpath hmembers⟩
  obtain ⟨field, hfield, update, hread⟩ := hreads member hmember
  exact word_of_read hfield hread

/-! ## Files -/

/-- The value is a table of settings, of which the record makes these. -/
def isTableOf (s : Settings) : Value → Bool
  | .table members =>
    (Value.table members).isSound &&
      (record.ofMembers (Value.memberDocuments members)).toOption == some s &&
      decide (members.map (·.1) ⊆ names)
  | _ => false

theorem ofToml_of_isTableOf {text : String}
    (h : (Toml.parse .dotted text.toList).any (isTableOf s) = true) :
    ofToml text = .ok s ∧ ∀ members, Toml.parse .dotted text.toList = some (.table members) →
      members.map (·.1) ⊆ names := by
  obtain ⟨value, hparse, hvalue⟩ := (Option.any_eq_true _ _).1 h
  obtain ⟨members, rfl⟩ := Toml.exists_table_of_parse hparse
  simp only [isTableOf, Bool.and_eq_true, beq_iff_eq, decide_eq_true_eq] at hvalue
  obtain ⟨⟨hsound, hmembers⟩, hnames⟩ := hvalue
  refine ⟨(Toml.decode_record_eq_ok_iff independent_fields).2
    ⟨members, hparse, hsound, Except.toOption_eq_some_iff.1 hmembers⟩, ?_⟩
  intro other hother
  rw [hparse] at hother
  cases hother
  exact hnames

/-- **The loose loader extends the strict one.** It makes the same settings of a file with the
extension that is found when its path is followed from the root and that gives no other names, when
no variable is set. -/
theorem load_of_ofFile {w : Workspace} {path text : String} (hextension : HasExtension path)
    (hentry : w.entry path = .file text)
    (hroom : path.toList.head? = some '/' ∨ path.utf8ByteSize ≤ w.room)
    (hnames : ∀ members, Toml.parse .dotted text.toList = some (.table members) →
      members.map (·.1) ⊆ names)
    (henvironment : ∀ entry ∈ w.environment,
      variableMark.isPrefixOf (Text.lowercased entry.1).toList = false)
    (h : ofFile w path = .ok s) : load w (some path) = .ok s := by
  have hread : w.read? path = some text := by rw [Workspace.read?, hentry]; rfl
  have hfile : w.hasFile path = true := by
    rw [Workspace.hasFile, hentry]
    simpa [Entry.isFile] using hroom
  have hvariables : Layer.ofEnvironment w.environment = [] := by
    rw [Layer.ofEnvironment, List.filterMap_eq_nil_iff]
    intro entry hentry
    simp only [henvironment entry hentry, Bool.false_eq_true, if_false]
  rw [ofFile, hread] at h
  obtain ⟨layer, hlayer, hs⟩ := ofLayer_of_ofToml w.loader hnames h
  rw [load, fileLayer_of_hasFile hextension hfile hentry, hlayer, hvariables]
  change ofLayer w.loader (layer ++ []) = _
  rwa [List.append_nil]

/-- Settings that name a language by a numeral. -/
def numeralText : String := "class_names = true\nlanguage = \"1.50\"\n"

/-- A text that looks like a number stays as it is written. -/
theorem load_of_ofFile_numeral :
    let w : Workspace := .ofFiles [("c.toml", numeralText)] [("HOME", "/")]
    let s : Settings := { language := "1.50", classNames := true }
    ofFile w "c.toml" = .ok s ∧ load w (some "c.toml") = .ok s := by
  intro w s
  have hentry : w.entry "c.toml" = .file numeralText := by decide +kernel
  have htable : (Toml.parse .dotted numeralText.toList).any (isTableOf s) = true := by
    decide +kernel
  obtain ⟨htext, hnames⟩ := ofToml_of_isTableOf htable
  have hstrict : ofFile w "c.toml" = .ok s := by
    rw [ofFile, Workspace.read?, hentry]
    exact htext
  have hextension : HasExtension "c.toml" := ⟨[], 'c', by decide +kernel, by decide⟩
  exact ⟨hstrict, load_of_ofFile hextension hentry (by decide +kernel) hnames
    (by decide +kernel) hstrict⟩

/-! ## Files that are there for the strict reader only -/

/-- No settings are loaded from a path with the extension that is too long to be followed from the
root. -/
theorem load_of_long {w : Workspace} {path : String} (hextension : HasExtension path)
    (hrelative : path.toList.head? ≠ some '/') (hlong : w.room < path.utf8ByteSize) :
    load w (some path) = .error .settings := by
  rw [load, fileLayer_of_long hextension hrelative hlong]
  rfl

/-- A detour makes a path too long for the loose reader before it does for the strict one. -/
theorem ofFile_of_detour {files : List (String × String)} {environment : List (String × String)}
    {n : Nat} {name : String} (hn : n ≠ 0) (hextension : HasExtension name)
    (hstart : (Workspace.components name).head? ≠ some "")
    (hsize : 2 * n + name.utf8ByteSize ≤ Workspace.maxPathSize)
    (hlong : (Workspace.ofFiles files environment).room < 2 * n + name.utf8ByteSize) :
    let w := Workspace.ofFiles files environment
    ofFile w (Workspace.dots n ++ name) = ofFile w name ∧
      load w (some (Workspace.dots n ++ name)) = .error .settings := by
  refine ⟨?_, load_of_long ?_ ?_ ?_⟩
  · rw [ofFile, Workspace.read?, Workspace.entry_dots hstart hsize]
    rfl
  · obtain ⟨front, c, hname, hc⟩ := hextension
    refine ⟨(Workspace.dots n).toList ++ front, c, ?_, hc⟩
    rw [String.toList_append, hname, List.append_assoc]
  · obtain ⟨n, rfl⟩ := Nat.exists_eq_succ_of_ne_zero hn
    rw [Workspace.dots_succ, String.append_assoc, String.toList_append]
    exact nofun
  · rwa [String.utf8ByteSize_append, Workspace.utf8ByteSize_dots]

/-- Settings for Java. -/
def javaText : String := "language = \"java\"\n"

/-- The strict reader takes a file whose name is nothing but the extension, and one that a detour
leads to; the loose one finds neither. -/
theorem ofFile_and_not_load :
    (∀ members, Toml.parse .dotted javaText.toList = some (.table members) →
      members.map (·.1) ⊆ names) ∧
    (let w : Workspace := .ofFiles [(".toml", javaText)] []
    ofFile w ".toml" = .ok { language := "java" } ∧ ∀ s, load w (some ".toml") ≠ .ok s) ∧
    (let w : Workspace := .ofFiles [("c.toml", javaText)] []
    let path := Workspace.dots 2044 ++ "c.toml"
    ofFile w path = .ok { language := "java" } ∧ ∀ s, load w (some path) ≠ .ok s) := by
  have htable : (Toml.parse .dotted javaText.toList).any (isTableOf { language := "java" }) =
      true := by decide +kernel
  obtain ⟨htext, hnames⟩ := ofToml_of_isTableOf htable
  refine ⟨hnames, ⟨?_, fun s hs => ?_⟩, ?_⟩
  · have hread : (Workspace.ofFiles [(".toml", javaText)] []).read? ".toml" = some javaText := by
      decide +kernel
    rw [ofFile, hread]
    exact htext
  · have hnone : (load (.ofFiles [(".toml", javaText)] []) (some ".toml")).toOption = none := by
      decide +kernel
    rw [hs] at hnone
    cases hnone
  · have hread : (Workspace.ofFiles [("c.toml", javaText)] []).read? "c.toml" = some javaText := by
      decide +kernel
    have hextension : HasExtension "c.toml" := ⟨[], 'c', by decide +kernel, by decide⟩
    have hlong : (Workspace.ofFiles [("c.toml", javaText)] []).room <
        2 * 2044 + "c.toml".utf8ByteSize := by decide +kernel
    obtain ⟨hstrict, hloose⟩ := ofFile_of_detour (by decide) hextension (by decide +kernel)
      (by decide +kernel) hlong
    refine ⟨?_, fun s hs => ?_⟩
    · rw [hstrict, ofFile, hread]
      exact htext
    · rw [hloose] at hs
      cases hs

end QuerySnippet.Settings
