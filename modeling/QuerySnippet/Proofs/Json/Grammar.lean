/-
The grammar of JSON, told without its reader.

`Spells cs d`: the characters are a text of the document, with blanks around any value and
any name, with numbers in any spelling and with characters of texts escaped or not.
-/
import QuerySnippet.Json.Parse

namespace QuerySnippet.Json

/-! ## Numbers -/

namespace Numeral

/-- A row of digits, at least one. -/
structure Digits (cs : List Char) : Prop where
  ne_nil : cs ≠ []
  isDigit : ∀ c ∈ cs, c.isDigit

/-- The digits before the point. No zero stands in front of others. -/
structure Whole (cs : List Char) : Prop extends Digits cs where
  zero : cs.head? = some '0' → cs = ['0']

/-- A point with digits behind it, or nothing. -/
inductive SpellsFraction : List Char → Option (List Char) → Prop
  | absent : SpellsFraction [] none
  | present {ds : List Char} : Digits ds → SpellsFraction ('.' :: ds) (some ds)

/-- A letter, maybe a sign, and digits behind them, or nothing. -/
inductive SpellsExponent : List Char → Option (Bool × List Char) → Prop
  | absent : SpellsExponent [] none
  | present {letter : Char} {sign ds : List Char} {negative : Bool} :
      letter = 'e' ∨ letter = 'E' →
      (sign, negative) ∈ [([], false), (['+'], false), (['-'], true)] → Digits ds →
      SpellsExponent (letter :: sign ++ ds) (some (negative, ds))

/-- The characters are a number literal with these parts. -/
inductive Spells : List Char → Numeral → Prop
  | mk {minus whole point power : List Char} {negative : Bool} {fraction : Option (List Char)}
      {exponent : Option (Bool × List Char)} :
      (minus, negative) ∈ [([], false), (['-'], true)] → Whole whole →
      SpellsFraction point fraction → SpellsExponent power exponent →
      Spells (minus ++ whole ++ point ++ power) ⟨negative, whole, fraction, exponent⟩

end Numeral

/-! ## Texts -/

/-- The characters stand for one character of a text, or for half of one. -/
inductive SpellsPiece : List Char → Piece → Prop
  | plain {c : Char} : c ≠ '"' → c ≠ '\\' → 0x20 ≤ c.toNat → SpellsPiece [c] (.char c)
  | escape {c plain : Char} : escaped? c = some plain → SpellsPiece ['\\', c] (.char plain)
  | unit {a b c d : Char} {k l m n : Nat} : Text.hexDigit? a = some k → Text.hexDigit? b = some l →
      Text.hexDigit? c = some m → Text.hexDigit? d = some n →
      SpellsPiece ['\\', 'u', a, b, c, d] (.ofUnit (16 * (16 * (16 * k + l) + m) + n))

/-- The characters are a text between quotes, with this content. A text with half a surrogate pair
in it has none. -/
def SpellsText (cs : List Char) (content : Option String) : Prop :=
  ∃ pieces : List (List Char × Piece), (∀ piece ∈ pieces, SpellsPiece piece.1 piece.2) ∧
    cs = '"' :: pieces.flatMap Prod.fst ++ ['"'] ∧ Piece.content (pieces.map Prod.snd) = content

/-! ## Documents -/

/-- Nothing but blanks. -/
def Blanks (cs : List Char) : Prop := ∀ c ∈ cs, isBlank c

mutual

/-- The characters are a text of the document. -/
inductive Spells : List Char → Document → Prop
  | null : Spells "null".toList .null
  | true : Spells "true".toList (.boolean true)
  | false : Spells "false".toList (.boolean false)
  | number {cs n} : Numeral.Spells cs n → Spells cs n.value
  | text {cs s} : SpellsText cs (some s) → Spells cs (.text s)
  | surrogate {cs} : SpellsText cs none → Spells cs (.unreadable .loneSurrogate)
  | emptyArray {blanks} : Blanks blanks → Spells ('[' :: blanks ++ [']']) (.array [])
  | array {cs items} : SpellsItems cs items → Spells ('[' :: cs ++ [']']) (.array items)
  | emptyObject {blanks} : Blanks blanks → Spells ('\x7b' :: blanks ++ ['\x7d']) (.object [])
  | object {cs members} : SpellsMembers cs members →
      Spells ('\x7b' :: cs ++ ['\x7d']) (objectOf members)
  | blanks {before cs after d} : Blanks before → Spells cs d → Blanks after →
      Spells (before ++ cs ++ after) d

/-- The characters are items, with commas between them. -/
inductive SpellsItems : List Char → List Document → Prop
  | one {cs d} : Spells cs d → SpellsItems cs [d]
  | append {cs cs' items items'} : SpellsItems cs items → SpellsItems cs' items' →
      SpellsItems (cs ++ ',' :: cs') (items ++ items')

/-- The characters are members, with commas between them. -/
inductive SpellsMembers : List Char → List (Option String × Document) → Prop
  | one {before name after cs content d} : Blanks before → SpellsText name content → Blanks after →
      Spells cs d → SpellsMembers (before ++ name ++ after ++ ':' :: cs) [(content, d)]
  | append {cs cs' members members'} : SpellsMembers cs members → SpellsMembers cs' members' →
      SpellsMembers (cs ++ ',' :: cs') (members ++ members')

end

end QuerySnippet.Json
