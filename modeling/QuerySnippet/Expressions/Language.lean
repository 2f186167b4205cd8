/-
The languages that have a table of their own.
-/
import QuerySnippet.Expressions.Basic
import QuerySnippet.Text.Blank
import QuerySnippet.Text.Case

namespace QuerySnippet

/-- The texts of a table, before any of them is read as a template. -/
structure Expressions.Texts where
  header : String
  filter : String
  search : String
  expand : String
  select : String
  orderBy : String
  skip : String
  skipToken : String
  top : String
  filterDelimiter : String
  expandDelimiter : String
  selectDelimiter : String
  orderByDelimiter : String

/-- The table that the texts make, or the error of the first text that is no template for its
place. -/
def Expressions.Texts.read (t : Texts) : Except Error Expressions := do
  let template (n : Nat) (source : String) : Except Error (Template n) :=
    (Template.parse n source).mapError .template
  pure {
    header := ← template 2 t.header
    filter := ← template 1 t.filter
    search := ← template 1 t.search
    expand := ← template 1 t.expand
    select := ← template 1 t.select
    orderBy := ← template 1 t.orderBy
    skip := ← template 1 t.skip
    skipToken := ← template 1 t.skipToken
    top := ← template 1 t.top
    filterDelimiter := t.filterDelimiter
    expandDelimiter := t.expandDelimiter
    selectDelimiter := t.selectDelimiter
    orderByDelimiter := t.orderByDelimiter }

/-- A language with a built-in table. -/
inductive Language where
  | csharp
  | javascript
  | java
deriving DecidableEq, Repr

namespace Language

/-- All of them. -/
def all : List Language := [csharp, javascript, java]

/-- The name of a language, in lower case. -/
def name : Language → String
  | csharp => "csharp"
  | javascript => "javascript"
  | java => "java"

/-- The language a name in lower case stands for. -/
def ofName? (name : String) : Option Language :=
  if name ∈ ["csharp", "c#", "cs"] then some csharp
  else if name ∈ ["javascript", "js"] then some javascript
  else if name = "java" then some java
  else none

/-- Reads a name in any case, with white space around it. -/
def parse (s : String) : Except Error Language :=
  match ofName? (Text.lowercased (Text.trimmed s)) with
  | some language => .ok language
  | none => .error (.unknownLanguage s)

/-- The texts of the table of a language. -/
def texts : Language → Expressions.Texts
  | csharp => {
      header := "\n\t.Header(\"\x7b0\x7d\",\"\x7b1\x7d\")"
      filter := "\n\t.Filter(\"\x7b0\x7d\")"
      search := "\n\t.Search(\"\x7b0\x7d\")"
      expand := "\n\t.Expand(\"\x7b0\x7d\")"
      select := "\n\t.Select(\"\x7b0\x7d\")"
      orderBy := "\n\t.OrderBy(\"\x7b0\x7d\")"
      skip := "\n\t.Skip(\x7b0\x7d)"
      skipToken := "\n\t.SkipToken(\"\x7b0\x7d\")"
      top := "\n\t.Top(\x7b0\x7d)"
      filterDelimiter := ","
      expandDelimiter := ","
      selectDelimiter := ","
      orderByDelimiter := " " }
  | javascript => {
      header := "\n\t.header('\x7b0\x7d','\x7b1\x7d')"
      filter := "\n\t.filter('\x7b0\x7d')"
      search := "\n\t.search('\x7b0\x7d')"
      expand := "\n\t.expand('\x7b0\x7d')"
      select := "\n\t.select('\x7b0\x7d')"
      orderBy := "\n\t.orderby('\x7b0\x7d')"
      skip := "\n\t.skip(\x7b0\x7d)"
      skipToken := "\n\t.skipToken('\x7b0\x7d')"
      top := "\n\t.top(\x7b0\x7d)"
      filterDelimiter := ","
      expandDelimiter := ","
      selectDelimiter := ","
      orderByDelimiter := " " }
  | java => {
      header := "\nrequestOptions.add(new HeaderOption(\"\x7b0\x7d\", \"\x7b1\x7d\"));"
      filter := "\n\t.filter(\"\x7b0\x7d\")"
      search := "\n\t.search(\"\x7b0\x7d\")"
      expand := "\n\t.expand(\"\x7b0\x7d\")"
      select := "\n\t.select(\"\x7b0\x7d\")"
      orderBy := "\n\t.orderBy(\"\x7b0\x7d\")"
      skip := "\n\t.skip(\x7b0\x7d)"
      skipToken := "\n\t.skipToken(\"\x7b0\x7d\")"
      top := "\n\t.top(\x7b0\x7d)"
      filterDelimiter := ","
      expandDelimiter := ","
      selectDelimiter := ","
      orderByDelimiter := " " }

/-- The texts of every language are templates. -/
theorem isOk_read_texts (l : Language) : l.texts.read.isOk := by
  cases l <;> decide +kernel

/-- The table of a language. -/
def expressions (l : Language) : Expressions :=
  match l.texts.read, l.isOk_read_texts with
  | .ok e, _ => e

theorem read_texts (l : Language) : l.texts.read = .ok l.expressions := by
  unfold expressions
  split
  · assumption

end Language

end QuerySnippet
