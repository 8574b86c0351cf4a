import CallSites.Fault

/-! # Locations

Where a call stands in its source: a start, and an end where one is known. Lines count from one,
columns from zero. A location is only made if it passes the checks of `Location.make`, which
compare its line, its column and its last line as numbers.
-/

namespace CallSites

open CallSites.Tree (Plain Value)

/-- A span of source text. The last column is kept as it was given. -/
structure Location where
  line : Plain
  column : Plain
  endLine : Plain
  endColumn : Value

namespace Location

/-- Where a tree without positions stands. -/
def start : Location := ⟨.int 1, .int 0, .null, .null⟩

/-- Checks the line, then the column, then that the span does not end above its start. -/
def make (line column endLine endColumn : Value) : Except Fault Location := do
  let zero := Extended.ofInt 0
  let (first, firstNumber) ← Fault.operand "<=" line "int"
  if firstNumber.below zero || firstNumber.same zero then throw (.lineNotPositive first)
  let (offset, offsetNumber) ← Fault.operand "<" column "int"
  if offsetNumber.below zero then throw (.columnNegative offset)
  if endLine.isNull then return ⟨first, offset, .null, endColumn⟩
  let (last, lastNumber) ← Fault.operand "<" endLine first.typeName
  if lastNumber.below firstNumber then throw (.endsBeforeStart last first)
  return ⟨first, offset, last, endColumn⟩

/-- The location of a tree, read off its position marks; a tree without a line stands at the
start. -/
def of (v : Value) : Except Fault Location :=
  if (v.attr "lineno").isNull then .ok start
  else make (v.attr "lineno") ((v.attr? "col_offset").getD (.int 0)) (v.attr "end_lineno")
    (v.attr "end_col_offset")

/-- The start, and the end where both its line and its column are known. -/
def text (location : Location) : String :=
  let first := location.line.shown ++ ":" ++ location.column.shown
  if location.endLine = .null || location.endColumn.isNull then first
  else first ++ "-" ++ location.endLine.shown ++ ":" ++ location.endColumn.display

end Location

end CallSites
