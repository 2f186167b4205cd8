/-
Path segments, and the type names that stand behind them.

A segment answers for its own name and for the properties of its type. Of an
operation only the first overload counts, and its parameters answer one after
the other, the binding parameter left out.
-/
import QuerySnippet.ClassName
import QuerySnippet.Edm.Basic
import QuerySnippet.Text.Ascii

namespace QuerySnippet

/-- One overload of a function or action. -/
structure Operation where
  name : String
  /-- The parameters in order, the binding parameter included. -/
  parameters : List (String × EdmType)
deriving DecidableEq, Repr

/-- One segment of a request path. -/
inductive Segment where
  /-- A navigation property of the type before. -/
  | navigationProperty (name : String) (type : EdmType)
  /-- A set of entities at the root. -/
  | entitySet (name : String) (type : EdmType)
  /-- A function or action, with its overloads. -/
  | operation (overloads : List Operation)
  /-- Any other segment: a key, a count, a value. -/
  | other (identifier : String)
deriving DecidableEq, Repr

/-- The text of a type, unless it is empty. -/
def EdmType.display? (t : EdmType) : Option String :=
  if t.display = "" then none else some t.display

/-- The type name that `identifier` has on something called `owner` of this type: the name of the
type itself when the two agree up to case, else that of the property so called. One collection
is taken off on the way, both from the type and from the property's type. -/
def EdmType.lookup (type : EdmType) (owner identifier : String) : Option String :=
  if Text.eqIgnoreCase owner identifier then type.unwrap.display?
  else (type.unwrap.property? identifier).bind fun found => found.unwrap.display?

namespace Segment

/-- The names of the parameter that stands for the object an operation is bound to. -/
def bindingNames : List String := ["bindingparameter", "bindparameter"]

/-- A parameter is the binding parameter. -/
def isBinding (name : String) : Bool := bindingNames.any (Text.eqIgnoreCase name)

/-- The name of a segment. -/
def identifier : Segment → String
  | navigationProperty name _ => name
  | entitySet name _ => name
  | operation [] => ""
  | operation (overload :: _) => overload.name
  | other identifier => identifier

/-- The type name of an identifier on a segment. -/
def find (identifier : String) : Segment → Option String
  | navigationProperty name type => type.lookup name identifier
  | entitySet name type => type.lookup name identifier
  | operation [] => none
  | operation (overload :: _) =>
    (overload.parameters.filter (!isBinding ·.1)).findSome? fun (name, type) =>
      type.lookup name identifier
  | other _ => none

/-- The type name of an identifier on a segment, empty when there is none. -/
def resolve (s : Segment) (identifier : String) : String := (s.find identifier).getD ""

/-- The type name of an identifier, as a class name if asked for. -/
def typeName (s : Segment) (classNames : Bool) (identifier : String) : Option String :=
  (s.find identifier).map fun name => if classNames then className name else name

end Segment

end QuerySnippet
