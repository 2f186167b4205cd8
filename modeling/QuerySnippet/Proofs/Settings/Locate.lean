/-
Paths of files of settings.

A path whose last name has the extension leads to the file that stands there
(`locate_of_hasFile`), if it can be followed from the root. A path that is too long for that
leads to no file (`locate_of_long`), though one may be there for a reader that follows the path
from where it starts: a detour does not change what stands at its end (`Workspace.entry_dots`).
-/
import Mathlib.Data.List.Basic
import QuerySnippet.Proofs.Outcome
import QuerySnippet.Settings.Load

namespace QuerySnippet

/-! ## Names in paths -/

namespace Workspace

theorem exists_getLast?_splitOn {tail : List Char} (htail : '/' ∉ tail) :
    ∀ front : List Char, ∃ before,
      ((front ++ tail).splitOn '/').getLast? = some (before ++ tail)
  | [] => by
    have hslash : ∀ c ∈ tail, (c == '/') = false := fun c hc =>
      beq_eq_false_iff_ne.2 fun he => htail (he ▸ hc)
    exact ⟨[], by simp [List.splitOn, List.splitOnP_eq_singleton hslash]⟩
  | c :: front => by
    obtain ⟨before, ih⟩ := exists_getLast?_splitOn htail front
    rw [List.splitOn] at ih
    rw [List.cons_append, List.splitOn, List.splitOnP_cons_eq_if_modifyHead]
    cases hsplit : (front ++ tail).splitOnP (· == '/') with
    | nil => exact absurd hsplit (List.splitOnP_ne_nil _ _)
    | cons first rest =>
      rw [hsplit] at ih
      split_ifs with hc
      · exact ⟨before, by rw [List.getLast?_cons_cons, ih]⟩
      · cases rest with
        | nil =>
          cases ih
          exact ⟨c :: before, rfl⟩
        | cons second rest =>
          rw [List.getLast?_cons_cons] at ih
          exact ⟨before, by rw [List.modifyHead_cons, List.getLast?_cons_cons, ih]⟩

/-- What stands at the end of a path without a slash stands at the end of its last name. -/
theorem exists_getLast?_components {path : String} {front tail : List Char}
    (hpath : path.toList = front ++ tail) (htail : '/' ∉ tail) :
    ∃ before, (components path).getLast? = some (String.ofList (before ++ tail)) := by
  obtain ⟨before, h⟩ := exists_getLast?_splitOn htail front
  refine ⟨before, ?_⟩
  rw [components, hpath, List.getLast?_map, h]
  rfl

/-! ## Detours -/

/-- A path that does not leave the place where it starts. -/
def dots (n : Nat) : String := String.ofList (List.replicate n "./".toList).flatten

theorem dots_succ (n : Nat) : dots (n + 1) = "./" ++ dots n := by
  rw [dots, List.replicate_succ, List.flatten_cons, String.ofList_append, String.ofList_toList]
  rfl

theorem utf8ByteSize_dots (n : Nat) : (dots n).utf8ByteSize = 2 * n := by
  induction n with
  | zero => rfl
  | succ n ih =>
    have hstep : "./".utf8ByteSize = 2 := by decide
    rw [dots_succ, String.utf8ByteSize_append, ih, hstep]
    omega

theorem components_dots (n : Nat) (rest : String) :
    components (dots n ++ rest) = List.replicate n "." ++ components rest := by
  induction n with
  | zero => rfl
  | succ n ih =>
    have hstep : (dots (n + 1) ++ rest).toList = ['.'] ++ '/' :: (dots n ++ rest).toList := by
      rw [dots_succ, String.append_assoc, String.toList_append]
      rfl
    rw [components, hstep, List.splitOn, List.splitOnP_append_cons _ _ rfl, List.map_append]
    exact congrArg ("." :: ·) ih

theorem foldl_step_dots (files : List (List String × String)) (n : Nat) :
    (List.replicate n ".").foldl (Position.step files) ⟨.inside [], 0⟩ = ⟨.inside [], 0⟩ := by
  induction n with
  | zero => rfl
  | succ n ih => exact ih

variable {files : List (String × String)} {environment : List (String × String)}

/-- A path that starts in the workspace is followed name by name. -/
theorem entry_of_relative {path : String} (hsize : path.utf8ByteSize ≤ maxPathSize)
    (hstart : (components path).head? ≠ some "") :
    (ofFiles files environment).entry path = ((components path).foldl
      (Position.step (files.map fun (name, content) => (components name, content)))
      ⟨.inside [], 0⟩).place.entry := by
  change (if maxPathSize < path.utf8ByteSize then _ else _) = _
  rw [if_neg (Nat.not_lt.2 hsize)]
  cases hnames : components path with
  | nil => rfl
  | cons first names =>
    rw [hnames] at hstart
    have hfirst : first ≠ "" := fun he => hstart (congrArg some he)
    split
    case h_1 heq => exact absurd (List.cons.inj heq).1 hfirst
    case h_2 heq => exact absurd (List.cons.inj heq).1 hfirst
    case h_3 => rfl

/-- What stands at a path stands there after a detour, as long as the path can be followed. -/
theorem entry_dots {n : Nat} {rest : String} (hstart : (components rest).head? ≠ some "")
    (hsize : 2 * n + rest.utf8ByteSize ≤ maxPathSize) :
    (ofFiles files environment).entry (dots n ++ rest) =
      (ofFiles files environment).entry rest := by
  have hstart' : (components (dots n ++ rest)).head? ≠ some "" := by
    rw [components_dots]
    cases n with
    | zero => exact hstart
    | succ n => simp [List.replicate_succ]
  have hsize' : (dots n ++ rest).utf8ByteSize ≤ maxPathSize := by
    rwa [String.utf8ByteSize_append, utf8ByteSize_dots]
  rw [entry_of_relative hsize' hstart', entry_of_relative (by omega) hstart, components_dots,
    List.foldl_append, foldl_step_dots]

/-! ## Long paths -/

/-- A path that is too long to be followed from the root leads to no file there. -/
theorem hasFile_of_long {w : Workspace} {path : String} (hrelative : path.toList.head? ≠ some '/')
    (hlong : w.room < path.utf8ByteSize) : w.hasFile path = false := by
  rw [hasFile, decide_eq_false hrelative, decide_eq_false (Nat.not_le.2 hlong), Bool.or_self,
    Bool.and_false]

end Workspace

namespace Settings

/-- The last name of the path ends in the extension of files of settings, with something in front
of it. -/
def HasExtension (path : String) : Prop :=
  ∃ front c, path.toList = front ++ c :: ".toml".toList ∧ c ≠ '/'

variable {w : Workspace} {path : String}

theorem stripped_of_hasExtension (h : HasExtension path) : stripped path = path := by
  obtain ⟨front, c, hpath, -⟩ := h
  have hreverse : path.toList.reverse = 'l' :: ("mot".toList ++ '.' :: c :: front.reverse) := by
    rw [hpath, List.reverse_append]
    simp
  have hkept : dropTail path.toList.reverse = path.toList.reverse := by
    rw [hreverse]
    rfl
  rw [stripped, hkept, List.reverse_reverse, String.ofList_toList]

theorem extension?_lastName?_of_hasExtension (h : HasExtension path) :
    (lastName? path).bind extension? = some tomlExtension := by
  have hstripped := stripped_of_hasExtension h
  obtain ⟨front, c, hpath, hc⟩ := h
  have htail : '/' ∉ c :: ".toml".toList := by simp [hc.symm]
  obtain ⟨before, hlast⟩ := Workspace.exists_getLast?_components hpath htail
  have hname : lastName? path = some (String.ofList (before ++ c :: ".toml".toList)) := by
    rw [lastName?, hstripped, hlast]
    split
    case h_1 heq => simp at heq
    case h_2 heq =>
      have hlength := congrArg (·.map (·.toList.length)) heq
      simp at hlength
    case h_3 => rfl
  have hreverse : (before ++ c :: ".toml".toList).reverse =
      "lmot".toList ++ '.' :: c :: before.reverse := by simp
  rw [hname, Option.bind_some, extension?, String.toList_ofList, hreverse]
  rfl

/-- A path with the extension leads to the file that is there, and this is in TOML. -/
theorem locate_of_hasFile (h : HasExtension path) (hfile : w.hasFile path = true) :
    locate w path = some (path, Layer.ofToml) := by
  rw [locate, if_pos hfile, extension?_lastName?_of_hasExtension h, Option.bind_eq_bind,
    Option.bind_some, w.loader.toml]
  rfl

/-- Behind a path with the extension, another is put as it is. -/
theorem extended?_of_hasExtension (h : HasExtension path) (extension : String) :
    extended? path extension = some (path ++ ("." ++ extension)) := by
  obtain ⟨name, hname, hextension⟩ :=
    Option.bind_eq_some_iff.1 (extension?_lastName?_of_hasExtension h)
  obtain ⟨front, c, hpath, -⟩ := h
  have hlast : path.toList.getLast? ≠ some '/' := by simp [hpath]
  simp [extended?, hname, hextension, hlast, String.append_assoc]

/-- A path with the extension that is too long to be followed from the root leads to no file. -/
theorem locate_of_long (h : HasExtension path) (hrelative : path.toList.head? ≠ some '/')
    (hlong : w.room < path.utf8ByteSize) : locate w path = none := by
  have hnone : ∀ extension, w.hasFile (path ++ ("." ++ extension)) = false := by
    intro extension
    have hrelative' : (path ++ ("." ++ extension)).toList.head? ≠ some '/' := by
      obtain ⟨front, c, hpath, -⟩ := h
      rw [hpath] at hrelative
      rw [String.toList_append, hpath]
      cases front <;> exact hrelative
    refine Workspace.hasFile_of_long hrelative' ?_
    rw [String.utf8ByteSize_append]
    omega
  rw [locate, Workspace.hasFile_of_long hrelative hlong, if_neg Bool.false_ne_true,
    List.findSome?_eq_none_iff]
  intro format _
  simp [extended?_of_hasExtension h, hnone]

/-- The layer of a file with the extension that is there is what TOML makes of its text. -/
theorem fileLayer_of_hasFile (h : HasExtension path) (hfile : w.hasFile path = true)
    {text : String} (hentry : w.entry path = .file text) :
    fileLayer w (some path) = Layer.ofToml text := by
  have hfound : found? w path = some (text, Layer.ofToml) := by
    simp [found?, locate_of_hasFile h hfile, hentry, Entry.lossy?, Entry.content?]
  simp [fileLayer, hfound]

/-- There is no layer of a path with the extension that is too long to be followed from the root. -/
theorem fileLayer_of_long (h : HasExtension path) (hrelative : path.toList.head? ≠ some '/')
    (hlong : w.room < path.utf8ByteSize) : fileLayer w (some path) = .error .settings := by
  simp [fileLayer, found?, locate_of_long h hrelative hlong]

end Settings

end QuerySnippet
