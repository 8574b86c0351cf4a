/-! # Double-precision numbers

A number is held as its sixty-four bits, so that comparison, reading and writing are plain integer
arithmetic. `nearest` rounds a quotient of natural numbers to the closest double, a tie going to
the even neighbour, and `sameNumber` is numerical equality: no NaN equals anything, and the two
zeros are equal.
-/

namespace CallSites

/-- A double-precision number as its sign bit, exponent and fraction, in one word. -/
structure Double where
  bits : UInt64
deriving DecidableEq, Repr, Inhabited

namespace Double

/-- A power of two. -/
def twoTo (exponent : Nat) : Nat := Nat.pow 2 exponent

/-- The word without its sign bit; on numbers of one sign it grows with the number. -/
def magnitude (x : Double) : Nat := x.bits.toNat % twoTo 63

/-- The magnitude of an infinity; every larger magnitude is a NaN. -/
def infinity : Nat := 2047 * twoTo 52

def isNegative (x : Double) : Bool := decide (twoTo 63 ≤ x.bits.toNat)

def isNaN (x : Double) : Bool := decide (infinity < x.magnitude)

def isInfinite (x : Double) : Bool := decide (x.magnitude = infinity)

def isZero (x : Double) : Bool := decide (x.magnitude = 0)

/-- The double with a given sign and magnitude. -/
def ofMagnitude (negative : Bool) (magnitude : Nat) : Double :=
  ⟨(magnitude + if negative then twoTo 63 else 0).toUInt64⟩

/-- The NaN that arithmetic produces. -/
def nan : Double := ofMagnitude false (infinity + twoTo 51)

/-- Numerical equality. -/
def sameNumber (x y : Double) : Bool :=
  !x.isNaN && !y.isNaN && (x == y || (x.isZero && y.isZero))

theorem sameNumber_comm (x y : Double) : x.sameNumber y = y.sameNumber x := by
  simp [sameNumber, BEq.comm, Bool.and_comm]

/-- A number equals itself exactly when it is no NaN. -/
theorem sameNumber_self (x : Double) : x.sameNumber x = !x.isNaN := by
  simp [sameNumber]

theorem sameNumber_trans {x y z : Double} (left : x.sameNumber y = true)
    (right : y.sameNumber z = true) : x.sameNumber z = true := by
  simp only [sameNumber, Bool.and_eq_true, Bool.or_eq_true, Bool.not_eq_eq_eq_not, Bool.not_true,
    beq_iff_eq] at left right ⊢
  obtain ⟨⟨hx, _⟩, hxy⟩ := left
  obtain ⟨⟨_, hz⟩, hyz⟩ := right
  refine ⟨⟨hx, hz⟩, ?_⟩
  rcases hxy with rfl | ⟨zx, zy⟩
  · exact hyz
  · rcases hyz with rfl | ⟨_, zz⟩
    · exact .inr ⟨zx, zy⟩
    · exact .inr ⟨zx, zz⟩

/-- The quotient rounded to the nearest natural number, a half going to the even neighbour. -/
def roundDiv (num den : Nat) : Nat :=
  let quotient := num / den
  let twice := 2 * (num % den)
  if twice < den then quotient
  else if den < twice then quotient + 1
  else quotient + quotient % 2

/-- The exponent of the last place of a double close to `num / den`: the significand has
fifty-three bits unless that would pass below the smallest exponent. -/
def lastPlace (num den : Nat) : Int :=
  let guess : Int := (num.log2 : Int) - den.log2 - 52
  let scaled := num * twoTo (-guess).toNat / (den * twoTo guess.toNat)
  let place := if scaled < twoTo 52 then guess - 1 else guess
  max place (-1074)

/-- The magnitude of the double nearest to `num / den`. A significand that rounds up to the next
power of two carries into the exponent by itself. -/
def nearest (num den : Nat) : Nat :=
  if num = 0 then 0
  else
    let place := lastPlace num den
    let significand := roundDiv (num * twoTo (-place).toNat) (den * twoTo place.toNat)
    min infinity ((place + 1074).toNat * twoTo 52 + significand)

/-- A finite magnitude as a quotient of natural numbers. -/
def ratio (magnitude : Nat) : Nat × Nat :=
  if magnitude < twoTo 52 then (magnitude, twoTo 1074)
  else
    let significand := twoTo 52 + magnitude % twoTo 52
    let exponent : Int := (magnitude / twoTo 52 : Nat) - 1075
    (significand * twoTo exponent.toNat, twoTo (-exponent).toNat)

end Double

end CallSites
