/-
Which integers fit in machine words.
-/

namespace QuerySnippet.Number

/-- The integer fits in an unsigned word of `bits` bits. -/
def fitsUnsigned (bits : Nat) (n : Int) : Bool := 0 ≤ n && n < Nat.pow 2 bits

/-- The integer fits in a signed word of `bits` bits. -/
def fitsSigned (bits : Nat) (n : Int) : Bool :=
  -Nat.pow 2 (bits - 1) ≤ n && n < Nat.pow 2 (bits - 1)

end QuerySnippet.Number
