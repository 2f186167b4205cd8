/-
Tables under construction.

A header `[a.b]` defines a table once and implies those around it; a header
`[[a.b]]` adds a table to a list; a dotted key makes tables that only dotted
keys in the same place may extend. What a value holds is closed: nothing can
be added to it.
-/
import QuerySnippet.Toml.Value

namespace QuerySnippet.Toml

/-- How a table came to be. -/
inductive Form where
  /-- By its own header. -/
  | explicit
  /-- By a header of a table inside it. -/
  | implicit
  /-- By a dotted key. -/
  | dotted
deriving DecidableEq, Repr

/-- Which tables a dotted key may add to, besides those that dotted keys have made. -/
inductive Reach where
  /-- No others. -/
  | dotted
  /-- Tables that headers have implied. No header defines them from then on. -/
  | implied
deriving DecidableEq, Repr

/-- A part of a table under construction. -/
inductive Node where
  | value (value : Value)
  | table (form : Form) (members : List (String × Node))
  /-- A list of tables; the last one is still open, those before it stand last first. -/
  | tables (last : List (String × Node)) (before : List (List (String × Node)))

/-- The members of a table under construction, in the order of their definition. -/
abbrev Members := List (String × Node)

namespace Members

/-- Changes the member with this name, or makes one at the end. -/
def update (name : String) (change : Option Node → Option Node) : Members → Option Members
  | [] => do
    let node ← change none
    some [(name, node)]
  | (other, node) :: members =>
    if other = name then do
      let node ← change (some node)
      some ((name, node) :: members)
    else ((other, node) :: ·) <$> update name change members

/-- Changes the table that a path of headers leads to. -/
def within (change : Members → Option Members) : List String → Members → Option Members
  | [], members => change members
  | name :: path, members =>
    update name (fun
      | none => .table .implicit <$> within change path []
      | some (.table form inner) => .table form <$> within change path inner
      | some (.tables last before) => (.tables · before) <$> within change path last
      | some (.value _) => none) members

/-- Defines a table by its header. -/
def define (name : String) : Members → Option Members :=
  update name fun
    | none => some (.table .explicit [])
    | some (.table .implicit inner) => some (.table .explicit inner)
    | _ => none

/-- Adds a table to a list by its header. -/
def extend (name : String) : Members → Option Members :=
  update name fun
    | none => some (.tables [] [])
    | some (.tables last before) => some (.tables [] (last :: before))
    | _ => none

/-- Gives a new member its value. The names before the last one lead through tables that no header
has defined, and the last of those tables must be one that a dotted key may add to. -/
def assign (reach : Reach) (value : Value) (name : String) :
    List String → Members → Option Members
  | [], members =>
    update name (fun
      | none => some (.value value)
      | some _ => none) members
  | next :: path, members =>
    update next (fun
      | none => .table .dotted <$> assign reach value name path []
      | some (.table .dotted inner) => .table .dotted <$> assign reach value name path inner
      | some (.table .implicit inner) =>
        match reach with
        | .implied => .table .dotted <$> assign reach value name path inner
        | .dotted =>
          if path.isEmpty then none else .table .implicit <$> assign reach value name path inner
      | some (.tables last before) =>
        if path.isEmpty then none else (.tables · before) <$> assign reach value name path last
      | _ => none) members

mutual

/-- The value of a part. -/
def closeNode : Node → Value
  | .value value => value
  | .table _ members => .table (closeMembers members)
  | .tables last before => .array (closeTables before [.table (closeMembers last)])

/-- The members of a finished table. -/
def closeMembers : List (String × Node) → List (String × Value)
  | [] => []
  | (name, node) :: members => (name, closeNode node) :: closeMembers members

/-- The tables of a list, last first, in front of those that are closed. -/
def closeTables : List (List (String × Node)) → List Value → List Value
  | [], closed => closed
  | members :: before, closed => closeTables before (.table (closeMembers members) :: closed)

end

/-- The finished table. -/
def close (members : Members) : Value := .table (closeMembers members)

end Members

end QuerySnippet.Toml
