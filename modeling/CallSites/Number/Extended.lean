import CallSites.Number.Double

/-! # Numbers on one line

Whole numbers and doubles are compared with each other exactly. An `Extended` number is a quotient,
one of the two infinities, or not a number; nothing is equal to or less than the last.
-/

namespace CallSites

/-- A number that can be compared with every other one. The denominator of a quotient is
positive. -/
inductive Extended where
  | quotient (num : Int) (den : Nat)
  | infinite (negative : Bool)
  | undefined
deriving DecidableEq, Repr

namespace Extended

def ofInt (n : Int) : Extended := quotient n 1

def ofDouble (x : Double) : Extended :=
  if x.isNaN then undefined
  else if x.isInfinite then infinite x.isNegative
  else
    let (num, den) := Double.ratio x.magnitude
    quotient (if x.isNegative then -num else num) den

/-- Numerical equality. -/
def same : Extended → Extended → Bool
  | quotient a b, quotient c d => decide (a * d = c * b)
  | infinite a, infinite b => a == b
  | _, _ => false

/-- Whether the first number lies below the second. -/
def below : Extended → Extended → Bool
  | undefined, _ | _, undefined => false
  | quotient a b, quotient c d => decide (a * d < c * b)
  | infinite a, infinite b => a && !b
  | infinite negative, quotient .. => negative
  | quotient .., infinite negative => !negative

/-- No number lies below itself. -/
theorem below_self (x : Extended) : x.below x = false := by
  cases x with
  | infinite negative => cases negative <;> rfl
  | _ => simp [below]

end Extended

end CallSites
