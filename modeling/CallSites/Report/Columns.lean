/-! # Column widths

Columns that need more room than there is are narrowed, the widest ones first: they come down
together to the next narrower column, until all columns have room.
-/

namespace CallSites.Report.Columns

/-- A quotient rounded to the nearest whole number, a half to the even one. -/
def roundedShare (amount sharers : Nat) : Nat :=
  let quotient := amount / sharers
  let twice := 2 * (amount % sharers)
  if twice < sharers then quotient
  else if twice > sharers then quotient + 1
  else quotient + quotient % 2

/-- Narrows the columns of width `widest` one after the other: each gives its share of what remains
to be given, but no more than `bound`. -/
def narrow (widest bound : Nat) : (remaining sharers : Nat) → List Nat → List Nat
  | _, _, [] => []
  | remaining, sharers, width :: rest =>
    if width = widest then
      let share := min bound (roundedShare remaining sharers)
      (width - share) :: narrow widest bound (remaining - share) (sharers - 1) rest
    else width :: narrow widest bound remaining sharers rest

/-- The largest of some widths. -/
def largest (widths : List Nat) : Nat := widths.foldl max 0

/-- One round: the widest columns come down, at most to the next narrower one. -/
def step (excess : Nat) (widths : List Nat) : List Nat :=
  let widest := largest widths
  let next := largest (widths.filter (· != widest))
  narrow widest (min excess (widest - next)) excess (widths.count widest) widths

/-- The room that columns take together. -/
def total : List Nat → Nat
  | [] => 0
  | width :: rest => width + total rest

/-- Narrows columns until they have room. -/
def shrink (room : Nat) (widths : List Nat) : List Nat :=
  if total widths ≤ room then widths
  else
    let narrowed := step (total widths - room) widths
    if total narrowed < total widths then shrink room narrowed else widths
termination_by total widths

/-- The widths of columns in a given room; no column asks for more than all of it. -/
def fitted (room : Nat) (wanted : List Nat) : List Nat :=
  shrink room (wanted.map (min room))

end CallSites.Report.Columns
