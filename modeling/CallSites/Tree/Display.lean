import CallSites.Tree.Walk

/-! # Values in listings

A listing of a walk says of each node where it stands. The marks for that are values and are shown
as such, a text by itself and without quotes.
-/

namespace CallSites.Tree

namespace Value

mutual

/-- A value inside a list. -/
def displayItem : Value → String
  | plain _ content => content.shown
  | list _ items => "[" ++ ", ".intercalate (displayItems items) ++ "]"
  | node _ kind _ _ => kind.label

def displayItems : List Value → List String
  | [] => []
  | v :: rest => displayItem v :: displayItems rest

end

/-- A value by itself. -/
def display : Value → String
  | plain _ (.str s) => s
  | v => displayItem v

mutual

/-- Whether a value holds a number with too many digits to be shown. -/
def isTooLong : Value → Bool
  | plain _ content => content.isTooLong
  | list _ items => itemsTooLong items
  | node .. => false

def itemsTooLong : List Value → Bool
  | [] => false
  | v :: rest => isTooLong v || itemsTooLong rest

end

end Value

/-- The line and the column of a visited node, if it has both. -/
def Visit.place? (visit : Visit) : Option String := do
  let line ← visit.node.attr? "lineno"
  let column ← visit.node.attr? "col_offset"
  return line.display ++ ":" ++ column.display

end CallSites.Tree
