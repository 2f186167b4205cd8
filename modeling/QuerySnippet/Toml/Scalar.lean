/-
The unquoted values of TOML: truth values, numbers, dates and times.
-/
import QuerySnippet.Text.Digit
import QuerySnippet.Toml.Value

namespace QuerySnippet.Toml

/-- The digits of a numeral: at least one, with underscores between digits only. -/
def ungrouped (isDigit : Char → Bool) : List Char → Option (List Char)
  | [] => none
  | [c] => if isDigit c then some [c] else none
  | c :: '_' :: cs => if isDigit c then (c :: ·) <$> ungrouped isDigit cs else none
  | c :: cs => if isDigit c then (c :: ·) <$> ungrouped isDigit cs else none

/-- The digits of a decimal integer without sign: no zero stands in front of others. -/
def decimalDigits (cs : List Char) : Option (List Char) :=
  match ungrouped Char.isDigit cs with
  | some ('0' :: _ :: _) => none
  | digits => digits

/-- A number in a base other than ten, after its mark. -/
def basedInteger (base : Nat) (cs : List Char) : Option Value := do
  let digits ← ungrouped (Text.digit? base · |>.isSome) cs
  (fun n : Nat => .integer n) <$> Text.ofDigits? base digits

/-- An integer. -/
def integer? : List Char → Option Value
  | '0' :: 'x' :: cs => basedInteger 16 cs
  | '0' :: 'o' :: cs => basedInteger 8 cs
  | '0' :: 'b' :: cs => basedInteger 2 cs
  | cs => do
    let (negative, cs) := Text.takeSign cs
    let size := Nat.ofDigitChars 10 (← decimalDigits cs) 0
    some (.integer (if negative then -size else size))

/-- The exponent of a floating point numeral, after its letter. -/
def exponent? (cs : List Char) : Option Int := do
  let (negative, cs) := Text.takeSign cs
  let size := Nat.ofDigitChars 10 (← ungrouped Char.isDigit cs) 0
  some (if negative then -size else size)

/-- The characters of a numeral before its exponent, and the exponent. -/
def splitExponent (cs : List Char) : Option (List Char × Option Int) :=
  match cs.span fun c => c != 'e' && c != 'E' with
  | (before, []) => some (before, none)
  | (before, _ :: after) => (before, some ·) <$> exponent? after

/-- The floating point number of a numeral. -/
def floatingOf (negative : Bool) (digits : List Char) (exponent : Int) : Value :=
  match Number.Binary64.ofDecimal negative (Nat.ofDigitChars 10 digits 0) exponent with
  | .infinite _ => .hugeFloating
  | x => .floating x

/-- A floating point number: a point or an exponent must be there. -/
def floating? (cs : List Char) : Option Value := do
  let (negative, cs) := Text.takeSign cs
  if cs = "inf".toList then some (.floating (.infinite negative))
  else if cs = "nan".toList then some (.floating .nan)
  else
    let (mantissa, exponent) ← splitExponent cs
    match mantissa.span (· != '.') with
    | (whole, _ :: fraction) =>
      let whole ← decimalDigits whole
      let fraction ← ungrouped Char.isDigit fraction
      some (floatingOf negative (whole ++ fraction) (exponent.getD 0 - fraction.length))
    | (whole, []) =>
      let whole ← decimalDigits whole
      some (floatingOf negative whole (← exponent))

/-- The number that two digits denote. -/
def pair? (tens ones : Char) : Option Nat := Text.ofDigits? 10 [tens, ones]

/-- The days of a month. -/
def daysIn (year month : Nat) : Nat :=
  if month = 2 then
    if year % 4 = 0 ∧ (year % 100 ≠ 0 ∨ year % 400 = 0) then 29 else 28
  else if month ∈ [4, 6, 9, 11] then 30
  else 31

/-- A date at the front of a text, and the rest. -/
def date? : List Char → Option (List Char × List Char)
  | y₁ :: y₂ :: y₃ :: y₄ :: '-' :: m₁ :: m₂ :: '-' :: d₁ :: d₂ :: rest => do
    let year ← Text.ofDigits? 10 [y₁, y₂, y₃, y₄]
    let month ← pair? m₁ m₂
    let day ← pair? d₁ d₂
    if 1 ≤ month ∧ month ≤ 12 ∧ 1 ≤ day ∧ day ≤ daysIn year month then
      some ([y₁, y₂, y₃, y₄, '-', m₁, m₂, '-', d₁, d₂], rest)
    else none
  | _ => none

/-- A part of a second, in at most nine digits without zeros at the end. -/
def secondPart (digits : List Char) : List Char :=
  match ((digits.take 9).reverse.dropWhile (· == '0')).reverse with
  | [] => ['.', '0']
  | digits => '.' :: digits

/-- The seconds of a time, if there are any, and the rest. -/
def seconds? : List Char → Option (List Char × List Char)
  | ':' :: s₁ :: s₂ :: rest => do
    let second ← pair? s₁ s₂
    if 60 < second then none
    else match rest with
      | '.' :: rest =>
        match rest.span Char.isDigit with
        | ([], _) => none
        | (digits, rest) => some ([':', s₁, s₂] ++ secondPart digits, rest)
      | rest => some ([':', s₁, s₂], rest)
  | rest => some ([], rest)

/-- A time at the front of a text, and the rest. -/
def time? : List Char → Option (List Char × List Char)
  | h₁ :: h₂ :: ':' :: m₁ :: m₂ :: rest => do
    let hour ← pair? h₁ h₂
    let minute ← pair? m₁ m₂
    let (seconds, rest) ← seconds? rest
    if hour ≤ 23 ∧ minute ≤ 59 then some ([h₁, h₂, ':', m₁, m₂] ++ seconds, rest) else none
  | _ => none

/-- The distance from universal time at the end of a time, or nothing. No distance has the sign
`+`. -/
def offset? : List Char → Option (List Char)
  | [] => some []
  | ['Z'] | ['z'] => some ['Z']
  | [sign, h₁, h₂, ':', m₁, m₂] => do
    let hour ← pair? h₁ h₂
    let minute ← pair? m₁ m₂
    if (sign = '+' ∨ sign = '-') ∧ hour ≤ 23 ∧ minute ≤ 59 then
      some [if hour + minute = 0 then '+' else sign, h₁, h₂, ':', m₁, m₂]
    else none
  | _ => none

/-- A date, a time, or a date with a time. -/
def moment? (cs : List Char) : Option Value :=
  match date? cs with
  | some (date, []) => some (.moment (String.ofList date))
  | some (date, mark :: rest) => do
    if mark ≠ 'T' ∧ mark ≠ 't' ∧ mark ≠ ' ' then none
    else
      let (time, rest) ← time? rest
      let offset ← offset? rest
      some (.moment (String.ofList (date ++ 'T' :: time ++ offset)))
  | none =>
    match time? cs with
    | some (time, []) => some (.moment (String.ofList time))
    | _ => none

/-- What an unquoted value denotes. -/
def scalar? (cs : List Char) : Option Value :=
  if cs = "true".toList then some (.boolean true)
  else if cs = "false".toList then some (.boolean false)
  else integer? cs <|> floating? cs <|> moment? cs

end QuerySnippet.Toml
