/-
The class name of a type: the last dotted part of its qualified name, in
Pascal case. `microsoft.graph.user` has the class name `User`, and so has
`Collection(microsoft.graph.user)`.
-/
import QuerySnippet.Text.Pascal

namespace QuerySnippet

/-- What a collection's name opens with. -/
def collectionOpening : List Char := "Collection(".toList

/-- The text between `Collection(` and a closing parenthesis, or the text itself when either end
is missing. -/
def unwrapName (name : List Char) : List Char :=
  if collectionOpening.isPrefixOf name then
    let inner := name.drop collectionOpening.length
    if inner.getLast? = some ')' then inner.dropLast else name
  else name

/-- The characters after the last dot. -/
def lastDotted (name : List Char) : List Char :=
  (name.reverse.takeWhile (· != '.')).reverse

/-- The class name of a type name. -/
def className (typeName : String) : String :=
  String.ofList (Text.pascalCase (lastDotted (unwrapName typeName.toList)))

end QuerySnippet
