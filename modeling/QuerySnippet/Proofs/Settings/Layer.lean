/-
What layers say of a name when settings are made of them.

`Layer.given?` is the value that the last entry of a name gives. A path that
goes through the name can hide it, but then no text comes of it: where a text
setting is read at all, it is the text of the value given (`text?_of_mapM`).
Of two layers the later one goes first (`given?_append`), and the layer of the
environment gives what the last variable for the name spells
(`given?_ofEnvironment`). That is always a text, so a variable for a text
setting never keeps the settings from loading (`exists_load_of_variable`).
-/
import Mathlib.Data.List.Basic
import QuerySnippet.Proofs.Outcome
import QuerySnippet.Settings.Load

namespace QuerySnippet.Settings

/-- The value that the last entry of a name gives. -/
def Layer.given? (layer : Layer) (name : String) : Option Loose := layer.reverse.lookup name

/-- The text that a layer gives to a name. -/
def Layer.text? (layer : Layer) (name : String) : Option String :=
  (layer.given? name).bind fun value => (looseText value).toOption

/-! ## Paths and names -/

theorem lookup_map_entryOf {name : String} (hname : path? name = none) :
    ∀ layer : Layer,
      (layer.map fun (name, value) => entryOf name value).lookup name = layer.lookup name ∨
      (layer.map fun (name, value) => entryOf name value).lookup name = some .other
  | [] => .inl rfl
  | (other, value) :: layer => by
    have ih := lookup_map_entryOf hname layer
    cases hother : path? other with
    | none =>
      simp only [List.map_cons, entryOf, hother, List.lookup_cons]
      cases name == other with
      | true => exact .inl rfl
      | false => exact ih
    | some path =>
      have hne : (name == other) = false := beq_eq_false_iff_ne.2 fun he => by
        rw [← he, hname] at hother
        cases hother
      simp only [List.map_cons, entryOf, hother, List.lookup_cons, hne]
      cases name == path.1 with
      | true => exact .inr rfl
      | false => exact ih

/-- A name that is no path has the value given to it, unless a path through it hides that. -/
theorem value?_eq_given?_or {name : String} (hname : path? name = none) (layer : Layer) :
    layer.value? name = layer.given? name ∨ layer.value? name = some .other := by
  rw [Layer.value?, ← List.map_reverse]
  exact lookup_map_entryOf hname layer.reverse

theorem looseText_toOption {value : Loose} {text : String} (h : looseText value = .ok text) :
    (looseText value).toOption = some text := by
  rw [h]
  rfl

theorem looseOptional_of_looseText {value : Loose} {text : String}
    (h : looseText value = .ok text) : looseOptional looseText value = .ok (some text) := by
  cases value <;> cases h <;> rfl

/-- A null makes no text, and so does nothing at all. -/
theorem looseOptional_toOption {value : Loose} {text : Option String}
    (h : looseOptional looseText value = .ok text) : (looseText value).toOption = text := by
  cases value with
  | null => cases h; rfl
  | _ =>
    obtain ⟨t, ht, rfl⟩ := Except.map_eq_ok.1 h
    exact looseText_toOption ht

/-- A text that is read is the one given, whether or not it may be absent. -/
theorem text?_of_mapM {α : Type} {read : Loose → Except Error α} {f : α → Option String}
    (hread : ∀ {value a}, read value = .ok a → (looseText value).toOption = f a)
    (hother : ∀ a, read .other ≠ .ok a) {name : String} (hname : path? name = none) {layer : Layer}
    {a : Option α} (h : (layer.value? name).mapM read = .ok a) :
    layer.text? name = a.bind f := by
  have hgiven : layer.given? name = layer.value? name := by
    rcases value?_eq_given?_or hname layer with hgiven | hhidden
    · exact hgiven.symm
    · rw [hhidden, Option.mapM_some, Except.map_eq_ok] at h
      obtain ⟨a, ha, -⟩ := h
      exact absurd ha (hother a)
  rw [Layer.text?, hgiven]
  cases hvalue : layer.value? name with
  | none =>
    rw [hvalue] at h
    cases h
    rfl
  | some value =>
    rw [hvalue, Option.mapM_some, Except.map_eq_ok] at h
    obtain ⟨a, ha, rfl⟩ := h
    exact hread ha

theorem given?_append (lower upper : Layer) (name : String) :
    Layer.given? (lower ++ upper) name = (upper.given? name).or (lower.given? name) := by
  rw [Layer.given?, List.reverse_append, List.lookup_append]
  rfl

/-! ## Variables -/

/-- The value of the last variable for a setting. Its name may be written in any case. -/
def variableFor? (environment : List (String × String)) (name : String) : Option String :=
  (environment.reverse.find? fun entry =>
    Text.lowercased entry.1 = String.ofList variableMark ++ name).map Prod.snd

/-- The text that the value of a variable stands for: that of the truth value or the number that it
spells, and itself if it spells neither. -/
def spelled (value : String) : String :=
  let lower := Text.lowercased value
  if lower = "true" ∨ lower = "false" then lower
  else match integer? value.toList, floating? value.toList with
    | some n, _ => toString n
    | none, some x => x.text numberStyle
    | none, none => value

theorem looseText_ofVariable (value : String) :
    looseText (ofVariable value) = .ok (spelled value) := by
  unfold ofVariable spelled
  by_cases htrue : Text.lowercased value = "true"
  · simp [htrue, looseText, toString]
  by_cases hfalse : Text.lowercased value = "false"
  · simp [hfalse, looseText, toString]
  simp only [htrue, hfalse, if_false, or_self]
  cases integer? value.toList with
  | some n => rfl
  | none =>
    cases floating? value.toList with
    | some x => rfl
    | none => rfl

/-- The name of a variable for a setting is the mark with the name of the setting behind it. -/
theorem lowercased_eq_iff {name : String} {setting : String} :
    Text.lowercased name = String.ofList variableMark ++ setting ↔
      variableMark.isPrefixOf (Text.lowercased name).toList = true ∧
        String.ofList ((Text.lowercased name).toList.drop variableMark.length) = setting := by
  rw [← String.toList_inj, String.toList_append, String.toList_ofList, List.isPrefixOf_iff_prefix]
  constructor
  · intro h
    rw [h, List.drop_left, String.ofList_toList]
    exact ⟨List.prefix_append .., rfl⟩
  · rintro ⟨⟨rest, hrest⟩, rfl⟩
    rw [String.toList_ofList, ← hrest, List.drop_left]

theorem given?_ofEnvironment (environment : List (String × String)) (name : String) :
    (Layer.ofEnvironment environment).given? name =
      (variableFor? environment name).map ofVariable := by
  rw [Layer.given?, Layer.ofEnvironment, ← List.filterMap_reverse, variableFor?]
  generalize environment.reverse = environment
  induction environment with
  | nil => rfl
  | cons entry environment ih =>
    rw [List.filterMap_cons]
    by_cases hentry : Text.lowercased entry.1 = String.ofList variableMark ++ name
    · obtain ⟨hmark, hname⟩ := lowercased_eq_iff.1 hentry
      rw [List.find?_cons_of_pos (by simpa using hentry)]
      simp only [hmark, if_true, hname, List.lookup_cons_self, Option.map_some]
    · rw [List.find?_cons_of_neg (by simpa using hentry), ← ih]
      by_cases hmark : variableMark.isPrefixOf (Text.lowercased entry.1).toList = true
      · have hname : (name == String.ofList
            ((Text.lowercased entry.1).toList.drop variableMark.length)) = false :=
          beq_eq_false_iff_ne.2 fun h => hentry (lowercased_eq_iff.2 ⟨hmark, h.symm⟩)
        simp only [hmark, if_true, List.lookup_cons, hname]
      · simp only [hmark, Bool.false_eq_true, if_false]

/-- Over a layer the environment gives what a variable spells, and else the layer does. -/
theorem text?_append_ofEnvironment (file : Layer) (environment : List (String × String))
    (name : String) :
    Layer.text? (file ++ Layer.ofEnvironment environment) name =
      ((variableFor? environment name).map spelled).or (file.text? name) := by
  rw [Layer.text?, given?_append, given?_ofEnvironment]
  cases variableFor? environment name with
  | none => rfl
  | some value => simp [looseText_ofVariable, Except.toOption]

/-! ## The settings -/

variable {loader : Loader} {layer : Layer} {s : Settings}

theorem ofLayer_eq_ok_iff :
    ofLayer loader layer = .ok s ↔
      loader.checkPositions layer = .ok () ∧
      ∃ language, (layer.value? "language").mapM looseText = .ok language ∧
      ∃ file, (layer.value? "expressions_file").mapM (looseOptional looseText) = .ok file ∧
      ∃ classNames, (layer.value? "class_names").mapM looseBoolean = .ok classNames ∧
      ∃ level, (layer.value? "log_level").mapM (looseOptional looseText) = .ok level ∧
        s = ⟨language.getD "csharp", file.join, classNames.getD false, level.join⟩ := by
  simp only [ofLayer, Except.bind_eq_ok, pure, Except.pure, Except.ok.injEq, eq_comm (a := s)]
  constructor
  · rintro ⟨⟨⟩, hpositions, rest⟩
    exact ⟨hpositions, rest⟩
  · rintro ⟨hpositions, rest⟩
    exact ⟨(), hpositions, rest⟩

/-- The language and the file of the settings are the texts that the layer gives. -/
theorem text?_of_ofLayer (h : ofLayer loader layer = .ok s) :
    s.language = (layer.text? "language").getD "csharp" ∧
      s.expressionsFile = layer.text? "expressions_file" := by
  obtain ⟨-, language, hlanguage, file, hfile, _, -, _, -, rfl⟩ := ofLayer_eq_ok_iff.1 h
  rw [text?_of_mapM looseText_toOption nofun (by decide +kernel) hlanguage,
    text?_of_mapM looseOptional_toOption nofun (by decide +kernel) hfile, Option.bind_fun_some]
  exact ⟨rfl, rfl⟩

/-! ## One more entry -/

variable {name : String}

theorem value?_append_singleton (hname : path? name = none) (layer : Layer) (value : Loose)
    (other : String) :
    Layer.value? (layer ++ [(name, value)]) other =
      if other = name then some value else layer.value? other := by
  simp only [Layer.value?, List.map_append, List.map_singleton, entryOf, hname,
    List.reverse_append, List.reverse_singleton, List.singleton_append, List.lookup_cons]
  split_ifs with h
  · rw [h, beq_self_eq_true]
  · rw [beq_eq_false_iff_ne.2 h]

theorem checkPositions_append_singleton (hname : path? name = none) (loader : Loader)
    (layer : Layer) (value : Loose) :
    loader.checkPositions (layer ++ [(name, value)]) = loader.checkPositions layer := by
  simp only [Loader.checkPositions, List.forM_eq_forM, List.forM_append, List.forM_cons,
    List.forM_nil, hname]
  exact bind_pure (m := Except Error) _

/-- A value that makes a text can stand over any settings but the one that is a truth value. -/
theorem exists_ofLayer_append_singleton (hname : path? name = none) (hne : name ≠ "class_names")
    (h : ofLayer loader layer = .ok s) {value : Loose} {text : String}
    (hvalue : looseText value = .ok text) :
    ∃ s', ofLayer loader (layer ++ [(name, value)]) = .ok s' := by
  have hread : ∀ {α : Type} {read : Loose → Except Error α} {a}, read value = .ok a →
      ∀ {other : String} {t}, (layer.value? other).mapM read = .ok t →
        ∃ t', (Layer.value? (layer ++ [(name, value)]) other).mapM read = .ok t' := by
    intro α read a hvalue other t ht
    rw [value?_append_singleton hname]
    split_ifs
    · exact ⟨some a, by rw [Option.mapM_some, hvalue]; rfl⟩
    · exact ⟨t, ht⟩
  obtain ⟨hpositions, _, hlanguage, _, hfile, classNames, hclassNames, _, hlevel, -⟩ :=
    ofLayer_eq_ok_iff.1 h
  obtain ⟨language, hlanguage⟩ := hread hvalue hlanguage
  obtain ⟨file, hfile⟩ := hread (looseOptional_of_looseText hvalue) hfile
  obtain ⟨level, hlevel⟩ := hread (looseOptional_of_looseText hvalue) hlevel
  refine ⟨_, ofLayer_eq_ok_iff.2 ⟨?_, language, hlanguage, file, hfile, classNames, ?_, level,
    hlevel, rfl⟩⟩
  · rw [checkPositions_append_singleton hname, hpositions]
  · rw [value?_append_singleton hname, if_neg (Ne.symm hne), hclassNames]

theorem ofEnvironment_append_singleton (environment : List (String × String)) {own : String}
    (hown : Text.lowercased own = String.ofList variableMark ++ name) (value : String) :
    Layer.ofEnvironment (environment ++ [(own, value)]) =
      Layer.ofEnvironment environment ++ [(name, ofVariable value)] := by
  obtain ⟨hmark, hname⟩ := lowercased_eq_iff.1 hown
  simp only [Layer.ofEnvironment, List.filterMap_append, List.filterMap_cons, hmark, if_true, hname,
    List.filterMap_nil]

/-- The file of settings is found without the environment. -/
theorem fileLayer_environment (w : Workspace) (environment : List (String × String))
    (path : Option String) : fileLayer { w with environment } path = fileLayer w path := by
  have hhas : ∀ path, Workspace.hasFile { w with environment } path = w.hasFile path := fun _ => rfl
  simp only [fileLayer, found?, locate, hhas]

/-- Settings that load do so with one more variable, whatever its value is, unless it is for a truth
value. -/
theorem exists_load_of_variable {w : Workspace} {path : Option String} {s : Settings}
    (h : load w path = .ok s) {own : String}
    (hown : Text.lowercased own = String.ofList variableMark ++ name) (hname : path? name = none)
    (hne : name ≠ "class_names") (value : String) :
    ∃ s', load { w with environment := w.environment ++ [(own, value)] } path = .ok s' := by
  obtain ⟨file, hfile, hlayer⟩ := Except.bind_eq_ok.1 h
  obtain ⟨s', hs'⟩ :=
    exists_ofLayer_append_singleton hname hne hlayer (looseText_ofVariable value)
  refine ⟨s', ?_⟩
  rw [load, fileLayer_environment, hfile, ofEnvironment_append_singleton w.environment hown]
  rwa [List.append_assoc] at hs'

end QuerySnippet.Settings
