/-
Bytes as a text where anything will do for one: what is no character becomes
the replacement character.

Bytes are replaced together as far as they could still begin a character.
-/

namespace QuerySnippet.Text

/-- The bytes that can stand behind this one in a character. -/
def mayFollow (first second : UInt8) : Bool :=
  if first = 0xE0 then 0xA0 ≤ second && second ≤ 0xBF
  else if first = 0xED then 0x80 ≤ second && second ≤ 0x9F
  else if first = 0xF0 then 0x90 ≤ second && second ≤ 0xBF
  else if first = 0xF4 then 0x80 ≤ second && second ≤ 0x8F
  else 0xC2 ≤ first && first ≤ 0xF3 && 0x80 ≤ second && second ≤ 0xBF

/-- How many bytes in front are replaced together, where no character stands. -/
def brokenSize : List UInt8 → Nat
  | first :: second :: third :: _ =>
    if !mayFollow first second then 1
    else if 0xF0 ≤ first && 0x80 ≤ third && third ≤ 0xBF then 3
    else 2
  | [first, second] => if mayFollow first second then 2 else 1
  | _ => 1

/-- The characters from a position on. -/
def lossyFrom (bytes : ByteArray) : (limit : Nat) → Nat → List Char
  | 0, _ => []
  | limit + 1, i =>
    if bytes.size ≤ i then []
    else match bytes.utf8DecodeChar? i with
      | some c => c :: lossyFrom bytes limit (i + c.utf8Size)
      | none =>
        let size := brokenSize (bytes.extract i (i + 3)).toList
        '\uFFFD' :: lossyFrom bytes limit (i + size)

/-- The text that bytes become. -/
def lossy (bytes : ByteArray) : String := String.ofList (lossyFrom bytes bytes.size 0)

end QuerySnippet.Text
