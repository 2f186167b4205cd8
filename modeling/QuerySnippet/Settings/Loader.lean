/-
The loader of settings, as far as settings depend on it.

A file of settings is read in the format of its extension. Of the formats TOML
alone is spelled out. What others there are, in which order their extensions
are tried, and what they make of a text is left open, and so is how much memory
the loader takes up and has. So what is shown of settings is shown for any
loader that knows TOML.
-/
import QuerySnippet.Settings.Layer

namespace QuerySnippet.Settings

/-- What a format makes of a text. -/
abbrev Format := String → Except Error Layer

/-- The extension of files in TOML. -/
def tomlExtension : String := "toml"

/-- A loader of settings. -/
structure Loader where
  /-- The formats by their extensions, in the order in which these are tried. -/
  formats : List (String × Format)
  /-- TOML is one of them. -/
  toml : formats.lookup tomlExtension = some Layer.ofToml
  /-- How many bytes a value takes up in a list. -/
  valueSize : Nat
  /-- How many bytes there are to hold a list. -/
  memorySize : Nat

/-- A loader that knows TOML alone. The sizes are assumed. -/
def Loader.tomlAlone : Loader where
  formats := [(tomlExtension, Layer.ofToml)]
  toml := rfl
  valueSize := 96
  memorySize := Nat.pow 2 34

/-- Checks that there can be a list with the position. A negative position is counted from the end.
On a machine of 64 bits, no list takes up `2 ^ 63` bytes or more; one that takes up more bytes than
there are cannot be held. -/
def Loader.checkPosition (loader : Loader) (position : Int) : Except Error Unit :=
  let length := if position < 0 then -position else position + 1
  if Nat.pow 2 63 ≤ length * loader.valueSize then .error .outOfReach
  else if loader.memorySize < length * loader.valueSize then .error .outOfMemory
  else .ok ()

/-- Checks the positions in the paths of a layer, one after another. -/
def Loader.checkPositions (loader : Loader) (layer : Layer) : Except Error Unit :=
  layer.forM fun (name, _) =>
    match path? name with
    | some (_, positions) => positions.forM loader.checkPosition
    | none => .ok ()

end QuerySnippet.Settings
