/-
Sets of characters and maps on characters, as tables of code points.

A table lists its rows in increasing order of their first code point, so a
search ends at the first row that begins beyond the code point it looks for.
-/

namespace QuerySnippet.Text

/-- Whether a code point lies in one of the ranges, both ends included. -/
def inRanges : List (Nat × Nat) → Nat → Bool
  | [], _ => false
  | (first, last) :: rest, n => if n < first then false else n ≤ last || inRanges rest n

/-- Whether a code point lies in one of the runs: from `first` to `last` in equal steps. -/
def inRuns : List (Nat × Nat × Nat) → Nat → Bool
  | [], _ => false
  | (first, last, step) :: rest, n =>
    if n < first then false
    else (n ≤ last && (n - first) % step == 0) || inRuns rest n

/-- The code point that lies at the distance given by the run that holds `n`. -/
def shift? : List (Nat × Nat × Nat × Int) → Nat → Option Nat
  | [], _ => none
  | (first, last, step, distance) :: rest, n =>
    if n < first then none
    else if n ≤ last && (n - first) % step == 0 then some (n + distance).toNat
    else shift? rest n

end QuerySnippet.Text
