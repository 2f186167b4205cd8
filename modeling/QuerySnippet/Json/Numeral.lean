/-
Number literals of JSON, and what they denote.

A literal without fraction and exponent is an integer as long as it fits in
64 bits, signed or unsigned; `-0` is not one. Every other literal is a
binary64 number. Its digits are gathered into a 64-bit significand while they
fit, which leaves a power of ten: one multiplication or division by it, each
rounded, gives the number. So a literal of more than nineteen digits may come
out one unit away from the nearest number.
-/
import QuerySnippet.Document.Basic
import QuerySnippet.Text.Digit

namespace QuerySnippet.Json

open Number

/-- A number literal in its parts. -/
structure Numeral where
  negative : Bool
  /-- The digits before the point. -/
  whole : List Char
  /-- The digits after the point, if there is one. -/
  fraction : Option (List Char)
  /-- Whether the exponent is negative, and its digits, if there is one. -/
  exponent : Option (Bool × List Char)
deriving DecidableEq, Repr

namespace Numeral

/-- Splits a text after its leading digits. -/
def digits (cs : List Char) : List Char × List Char := cs.span Char.isDigit

/-- The digits before the point: at least one, and no zero in front of others. -/
def readWhole (cs : List Char) : Option (List Char × List Char) :=
  match digits cs with
  | ([], _) => none
  | ('0' :: _ :: _, _) => none
  | parts => some parts

/-- The digits after a point, if a point stands first. -/
def readFraction : List Char → Option (Option (List Char) × List Char)
  | '.' :: cs =>
    match digits cs with
    | ([], _) => none
    | (fraction, rest) => some (some fraction, rest)
  | cs => some (none, cs)

/-- The exponent, if its letter stands first. -/
def readExponent : List Char → Option (Option (Bool × List Char) × List Char)
  | [] => some (none, [])
  | c :: cs =>
    if c = 'e' ∨ c = 'E' then
      let (negative, cs) := Text.takeSign cs
      match digits cs with
      | ([], _) => none
      | (exponent, rest) => some (some (negative, exponent), rest)
    else some (none, c :: cs)

/-- Takes a number literal apart. -/
def read (cs : List Char) : Option Numeral := do
  let (negative, cs) := match cs with
    | '-' :: cs => (true, cs)
    | cs => (false, cs)
  let (whole, cs) ← readWhole cs
  let (fraction, cs) ← readFraction cs
  let (exponent, cs) ← readExponent cs
  if cs.isEmpty then some { negative, whole, fraction, exponent } else none

/-- Gathers digits into a significand while it stays below `2 ^ 64`; the rest is left over. -/
def gather (significand : Nat) : List Char → Nat × List Char
  | [] => (significand, [])
  | c :: cs =>
    let next := Nat.ofDigitChars 10 [c] significand
    if next < UInt64.size then gather next cs else (significand, c :: cs)

/-- The number `significand * 10 ^ exponent` for a significand below `2 ^ 64`, by one rounded
multiplication or division. A power of ten below `10 ^ -308` takes two divisions. -/
def scale (significand : Nat) (exponent : Int) : Option Magnitude := do
  let x ← Magnitude.ofNat significand
  if significand = 0 ∨ exponent < -616 then some .zero
  else if 308 < exponent then none
  else if 0 ≤ exponent then x.mul (← Magnitude.ofDecimal 1 exponent)
  else if -308 ≤ exponent then x.div (← Magnitude.ofDecimal 1 (-exponent))
  else
    let y ← x.div (← Magnitude.ofDecimal 1 308)
    y.div (← Magnitude.ofDecimal 1 (-exponent - 308))

/-- The significand of a literal and the power of ten that it is to be multiplied by. -/
def decimal (n : Numeral) : Nat × Int :=
  let (significand, dropped) := gather 0 n.whole
  let fraction := n.fraction.getD []
  let (significand, left) := gather significand fraction
  let written : Int := match n.exponent with
    | none => 0
    | some (negative, digits) =>
      let size := Nat.ofDigitChars 10 digits 0
      if negative then -size else size
  (significand, written + dropped.length - (fraction.length - left.length : Nat))

/-- The number with this sign and this magnitude, if that is finite. -/
def signed (negative : Bool) : Option Magnitude → Document
  | some x => .floating (.finite negative x)
  | none => .unreadable .beyondFinite

/-- The number a literal denotes when it is not an integer. -/
def floating (n : Numeral) : Document := signed n.negative (scale n.decimal.1 n.decimal.2)

/-- What a literal denotes. -/
def value (n : Numeral) : Document :=
  if n.fraction.isNone ∧ n.exponent.isNone then
    let size := Nat.ofDigitChars 10 n.whole 0
    if n.negative then
      if 0 < size ∧ fitsSigned 64 (-size) then .integer (-size) else n.floating
    else if fitsUnsigned 64 size then .integer size
    else n.floating
  else n.floating

end Numeral

end QuerySnippet.Json
