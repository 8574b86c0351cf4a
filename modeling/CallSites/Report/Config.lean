import CallSites.Fault

/-! # Settings of a report -/

namespace CallSites.Report

open CallSites.Tree (Plain Value)

/-- What a report shows, and how wide it is. -/
structure Config where
  /-- Whether the arguments of a match are shown. -/
  showBindings : Bool
  /-- How many matches are shown at most, if that is limited. -/
  maxMatches : Option Nat
  /-- The width of the terminal in cells. -/
  width : Nat
  width_pos : 0 < width

namespace Config

/-- The width that is used when none is given. -/
def defaultWidth : Nat := 120

/-- Checks the limit, then the width. -/
def make (showBindings : Bool) (maxMatches : Option Int) (width : Int) : Except Fault Config :=
  match maxMatches.filter (· < 0) with
  | some count => .error (.shownNegative (.int count))
  | none =>
    if positive : 0 < width then
      .ok ⟨showBindings, maxMatches.map Int.toNat, width.toNat, Int.lt_toNat.mpr positive⟩
    else .error (.widthNotPositive (.int width))

/-- Checks settings of any type: the limit and the width have to be numbers, and a message about one
shows it as it was given. -/
def check (maxMatches width : Value) : Except Fault Unit := do
  let zero := Extended.ofInt 0
  if !maxMatches.isNull then
    let (count, number) ← Fault.operand "<" maxMatches "int"
    if number.below zero then throw (.shownNegative count)
  let (cells, number) ← Fault.operand "<=" width "int"
  if number.below zero || number.same zero then throw (.widthNotPositive cells)

/-- The whole number that a value is. -/
def whole? (v : Value) : Option Int :=
  match v.plain? with
  | some (.bool b) => some (if b then 1 else 0)
  | some (.int n) => some n
  | _ => none

/-- Settings from values of any type. Only whole numbers can be used as a limit or a width. -/
def ofValues (showBindings maxMatches width : Value) : Except Fault Config := do
  check maxMatches width
  let count ← if maxMatches.isNull then pure none
    else match whole? maxMatches with
      | some count => pure (some count)
      | none => throw .notIndex
  match whole? width with
  | some cells => make showBindings.truthy count cells
  | none => throw (.unprintable .wrongType)

/-- The matches that are shown. -/
def limit {α : Type} (config : Config) (items : List α) : List α :=
  match config.maxMatches with
  | some count => items.take count
  | none => items

end Config

end CallSites.Report
