import CallSites.Tree.Printer.Pattern
import CallSites.Tree.Printer.Statement
import CallSites.Tree.Walk

/-! # Source text of trees

`source` turns a tree back into source text. The steps for the kinds of nodes are tied together
here: a list is printed item by item, and a node whose kind has no step of its own prints each of
its children as a new text.
-/

namespace CallSites.Tree

namespace Printer

/-- Whether a value is printed by itself or as a part of a formatted string. -/
inductive Role where
  | whole | part
deriving DecidableEq, Repr

/-- Prints a node by itself. -/
def printNode (bound : Nat) (visit part : Value → Print Unit) (v : Value) (kind : Kind) :
    Print Unit :=
  match (expression? visit part v kind).or ((pattern? visit v kind).or
    (statement? visit bound v kind)) with
  | some step => step
  | none => v.children.forM fun child => afresh (visit child)

/-- Prints a value whose parts nest at most as deeply as the bound says. -/
def print : Nat → Role → Value → Print Unit
  | 0, _, _ => throw .missingAttribute
  | bound + 1, .part, v => formattedPart (print bound .whole) (print bound .part) v
  | bound + 1, .whole, v =>
    match v with
    | .list _ items => items.forM (print bound .whole)
    | .node _ kind _ _ => printNode bound (print bound .whole) (print bound .part) v kind
    | .plain .. => throw .missingAttribute

/-- Prints a whole tree and joins what was written. A formatted string is met twice, as a whole and
as its parts. -/
def printAll (v : Value) : Print String := do
  print (2 * v.height + 2) .whole v
  joined (← get).pieces.reverse

/-- The text that a run ends with. -/
def finish : Except Unprintable (String × Output) → Except Fault String
  | .ok (text, _) => .ok text
  | .error why => .error (.unprintable why)

end Printer

/-- The source text of a tree. -/
def Value.source (v : Value) : Except Fault String := Printer.finish ((Printer.printAll v).run {})

end CallSites.Tree
