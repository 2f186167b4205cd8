/-
Finite magnitudes of binary64: the numbers `significand * 2 ^ power / 2 ^ 1074`
with a significand below `2 ^ 53` and a power of at most 2045.

`nearest` rounds an exact quotient of natural numbers to the nearest
magnitude, ties to the even significand; products, quotients and decimal
numerals are their exact values rounded once.
-/

namespace QuerySnippet.Number

/-- The integer nearest to `num / den`, the even one of two. -/
def roundHalfEven (num den : Nat) : Nat :=
  let floor := num / den
  let rest := 2 * (num % den)
  if rest < den then floor
  else if den < rest then floor + 1
  else if floor % 2 = 0 then floor else floor + 1

/-- A finite magnitude, `significand * 2 ^ power` in units of `2 ^ -1074`. -/
structure Magnitude where
  significand : Nat
  power : Nat
deriving DecidableEq, Repr

namespace Magnitude

/-- The largest power of a finite magnitude. -/
def maxPower : Nat := 2045

/-- One, in the units a magnitude counts. -/
def unit : Nat := Nat.pow 2 1074

/-- The least significand of a magnitude with a power above zero. -/
def leastNormal : Nat := Nat.pow 2 52

/-- Zero. -/
def zero : Magnitude := ⟨0, 0⟩

/-- The magnitude in units of `2 ^ -1074`. -/
def scaled (x : Magnitude) : Nat := x.significand * Nat.pow 2 x.power

/-- The magnitude nearest to `num / den`, or nothing when that is beyond the finite ones. -/
def nearest (num den : Nat) : Option Magnitude :=
  let num := num * unit
  let power := (num / den).log2 - 52
  let significand := roundHalfEven num (den * Nat.pow 2 power)
  let x : Magnitude :=
    if significand = 2 * leastNormal then ⟨leastNormal, power + 1⟩ else ⟨significand, power⟩
  if x.power ≤ maxPower then some x else none

/-- The magnitude nearest to a natural number. -/
def ofNat (n : Nat) : Option Magnitude := nearest n 1

/-- The product, rounded. -/
def mul (x y : Magnitude) : Option Magnitude := nearest (x.scaled * y.scaled) (unit * unit)

/-- The quotient, rounded. -/
def div (x y : Magnitude) : Option Magnitude := nearest x.scaled y.scaled

/-- The magnitude nearest to `digits * 10 ^ exponent`. A numeral of 311 digits or more before the
point is beyond the finite magnitudes, and one that begins 400 places behind it rounds to zero. -/
def ofDecimal (digits : Nat) (exponent : Int) : Option Magnitude :=
  let point := (Nat.toDigits 10 digits).length + exponent
  if digits = 0 ∨ point < -400 then some zero
  else if 310 < point then none
  else nearest (digits * Nat.pow 10 exponent.toNat) (Nat.pow 10 (-exponent).toNat)

end Magnitude

end QuerySnippet.Number
