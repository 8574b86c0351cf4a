import CallSites.Fault
import CallSites.Tree.TraversalKeys

/-! # Options

A matcher can be given a traversal table of its own. A table that is given as an option is checked;
elsewhere it is taken as it is.
-/

namespace CallSites.Options

open CallSites.Tree (TraversalKeys)

/-- A row of a table as it is given: field names, or by mistake a text or a value of some other
type. -/
inductive Row where
  | fields (names : List String)
  | text (s : String)
  | other (typeName : String)
deriving DecidableEq, Repr

/-- The field names of a row; a text stands for its characters. -/
def Row.names : Row → Except Fault (List String)
  | fields names => .ok names
  | text s => .ok (s.toList.map String.singleton)
  | other typeName => .error (.notIterable typeName)

/-- A table as it is given. -/
abbrev Rows := List (String × Row)

/-- The table of some rows, otherwise unchecked. -/
def freeze (rows : Rows) : Except Fault TraversalKeys := do
  return ⟨← rows.mapM fun (kind, row) => return (kind, ← row.names)⟩

/-- The table in use: the standard one if none is given. -/
def inUse (keys : Option TraversalKeys) : TraversalKeys := keys.getD .standard

/-- Checks one row: its kind must not be empty, and it must not be a text. -/
def checkRow : String × Row → Except Fault Unit
  | (kind, row) =>
    if kind.isEmpty then .error (.emptyText .tableKind)
    else match row with
      | .text _ => .error (.rowNotSequence kind)
      | .fields _ | .other _ => .ok ()

/-- The table of some rows, checked from the first row on. -/
def check (rows : Rows) : Except Fault TraversalKeys := do
  rows.forM checkRow
  freeze rows

/-- Whether two options are the same. -/
def same : Option TraversalKeys → Option TraversalKeys → Bool
  | none, none => true
  | some left, some right => left.sameTable right
  | _, _ => false

/-- How many different options there are in a list. -/
def distinct : List (Option TraversalKeys) → Nat
  | [] => 0
  | keys :: rest => distinct rest + if rest.any (same keys) then 0 else 1

end CallSites.Options
