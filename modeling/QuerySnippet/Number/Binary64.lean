/-
Binary64 numbers and how they are written.

A `Style` holds the decisions of a text format: which numbers are written
out in full and which with an exponent, and whether a whole number keeps a
point. The digits are always the shortest ones.
-/
import QuerySnippet.Number.Shortest

namespace QuerySnippet.Number

/-- A binary64 number. There is only one that is not a number. -/
inductive Binary64 where
  | finite (negative : Bool) (magnitude : Magnitude)
  | infinite (negative : Bool)
  | nan
deriving DecidableEq, Repr

/-- How a format writes numbers. -/
structure Style where
  /-- Whether a number whose first digit stands for this power of ten is written in full. -/
  inFull : Int → Bool
  /-- Whether a whole number that is written in full ends in `.0`. -/
  wholePoint : Bool
  /-- Which of two decimals equally near is written. -/
  tie : Tie

/-- The digits around the decimal point. -/
def Decimal.inFull (wholePoint : Bool) (d : Decimal) : List Char :=
  if d.point ≤ 0 then '0' :: '.' :: List.replicate (-d.point).toNat '0' ++ d.digits
  else
    let before := d.point.toNat
    if d.digits.length ≤ before then
      d.digits ++ List.replicate (before - d.digits.length) '0'
        ++ if wholePoint then ['.', '0'] else []
    else d.digits.take before ++ '.' :: d.digits.drop before

/-- The digits with a point after the first of them, and an exponent, which always has a sign. -/
def Decimal.withExponent (d : Decimal) : List Char :=
  let exponent := d.point - 1
  let mantissa := match d.digits with
    | first :: second :: rest => first :: '.' :: second :: rest
    | digits => digits
  mantissa ++ ['e', if exponent < 0 then '-' else '+'] ++ Nat.toDigits 10 exponent.natAbs

namespace Binary64

/-- The text of a number. -/
def text (style : Style) : Binary64 → String
  | finite negative x =>
    let d := x.shortest style.tie
    let size := if style.inFull (d.point - 1) then d.inFull style.wholePoint else d.withExponent
    String.ofList (if negative then '-' :: size else size)
  | infinite negative => if negative then "-inf" else "inf"
  | nan => "NaN"

/-- The number nearest to `digits * 10 ^ exponent`, infinite when that is beyond the finite ones. -/
def ofDecimal (negative : Bool) (digits : Nat) (exponent : Int) : Binary64 :=
  match Magnitude.ofDecimal digits exponent with
  | some x => finite negative x
  | none => infinite negative

end Binary64

end QuerySnippet.Number
