/-
The shortest decimal of a magnitude: of the decimals that lie nearer to it
than to any other magnitude, one with the fewest digits, and of those the
nearest.

The decimals nearer to a magnitude than to its neighbours form an interval
that reaches half-way to either side, its ends included when the significand
is even. For each number of digits the two decimals around the magnitude are
tried; seventeen digits always suffice.
-/
import QuerySnippet.Number.Magnitude

namespace QuerySnippet.Number

/-- A decimal number: its digits, and where its point stands among them. -/
structure Decimal where
  /-- The digits, without zeros at the end. -/
  digits : List Char
  /-- How many places behind the beginning of the digits the point stands. -/
  point : Int
deriving DecidableEq, Repr

/-- Which of two decimals equally near to a magnitude is taken. -/
inductive Tie where
  | even
  | up
deriving DecidableEq, Repr

/-- The number of decimal digits of a natural number. -/
def digitCount (n : Nat) : Nat := (Nat.toDigits 10 n).length

/-- The least power of ten above the quotient `num / den` of positive numbers. -/
def order (num den : Nat) : Int :=
  if den ≤ num then digitCount (num / den) else 1 - (digitCount ((den - 1) / num) : Int)

/-- The decimal `count * 10 ^ place`. -/
def Decimal.ofCount (count : Nat) (place : Int) : Decimal :=
  let digits := Nat.toDigits 10 count
  { digits := (digits.reverse.dropWhile (· == '0')).reverse
    point := digits.length + place }

namespace Magnitude

/-- The multiple of `10 ^ place` next to a positive magnitude that stands for it, if either of its
two neighbours does. -/
def onGrid? (tie : Tie) (x : Magnitude) (place : Int) : Option Decimal :=
  let up := Nat.pow 10 (-place).toNat
  let grid := 4 * unit * Nat.pow 10 place.toNat
  let gap := Nat.pow 2 x.power * up
  let value := 4 * x.significand * gap
  let low := value - if x.significand = leastNormal ∧ 0 < x.power then gap else 2 * gap
  let high := value + 2 * gap
  let inside (count : Nat) : Bool :=
    if x.significand % 2 = 0 then low ≤ count * grid ∧ count * grid ≤ high
    else low < count * grid ∧ count * grid < high
  let floor := value / grid
  let rest := 2 * (value % grid)
  let upper :=
    if inside floor ∧ inside (floor + 1) then
      grid < rest ∨ (rest = grid ∧ (tie = .up ∨ floor % 2 = 1))
    else inside (floor + 1)
  let count := if upper then floor + 1 else floor
  if inside count then some (.ofCount count place) else none

/-- The shortest decimal of a magnitude. -/
def shortest (tie : Tie) (x : Magnitude) : Decimal :=
  if x.significand = 0 then ⟨['0'], 1⟩
  else
    let top := order x.scaled unit
    let grids := (List.range 17).map fun n => top - (n + 1 : Nat)
    (grids.findSome? (x.onGrid? tie)).getD (.ofCount x.scaled 0)

end Magnitude

end QuerySnippet.Number
