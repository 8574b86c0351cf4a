import CallSites.Tree.Plain
import Mathlib.Tactic.LinearCombination
import Mathlib.Tactic.Positivity
import Mathlib.Tactic.Zify

/-! # Two ways to compare plain values

Doubles are compared by their bits, but for the two zeros, and numbers of all types by what they are
worth. The two agree: the worth of a finite double is a whole number of smallest doubles that grows
strictly with its magnitude, so doubles of one worth and sign have the same bits. Hence plain values
are equal exactly if they are of one type and alike.
-/

namespace CallSites

namespace Double

private theorem twoTo_add (m n : Nat) : twoTo (m + n) = twoTo m * twoTo n := Nat.pow_add 2 m n

private theorem twoTo_pos (n : Nat) : 0 < twoTo n := Nat.two_pow_pos n

private theorem twoTo_le {m n : Nat} (le : m ≤ n) : twoTo m ≤ twoTo n :=
  Nat.pow_le_pow_right (by decide) le

/-- A finite magnitude as a multiple of the smallest double. -/
def units (magnitude : Nat) : Nat :=
  if magnitude < twoTo 52 then magnitude
  else (twoTo 52 + magnitude % twoTo 52) * twoTo (magnitude / twoTo 52 - 1)

/-- The quotient of a magnitude is its number of units, of which `twoTo 1074` make one. -/
theorem ratio_eq_units (magnitude : Nat) :
    (ratio magnitude).1 * twoTo 1074 = units magnitude * (ratio magnitude).2 := by
  by_cases small : magnitude < twoTo 52
  · simp only [ratio, units, if_pos small]
  · have later : 0 < magnitude / twoTo 52 := Nat.div_pos (Nat.not_lt.mp small) (twoTo_pos 52)
    simp only [ratio, units, if_neg small]
    generalize twoTo 52 + magnitude % twoTo 52 = significand
    generalize magnitude / twoTo 52 = block at later ⊢
    have exponents : ((block : Int) - 1075).toNat + 1074 =
        block - 1 + (-((block : Int) - 1075)).toNat := by omega
    rw [Nat.mul_assoc, Nat.mul_assoc, ← twoTo_add, ← twoTo_add, exponents]

private theorem ratio_den_pos (magnitude : Nat) : 0 < (ratio magnitude).2 := by
  by_cases small : magnitude < twoTo 52
  · simp only [ratio, if_pos small, twoTo_pos]
  · simp only [ratio, if_neg small, twoTo_pos]

/-- Below the end of a block of magnitudes with one exponent, the units stay below those with which
the next block starts. -/
theorem units_lt {magnitude block : Nat} (below : magnitude / twoTo 52 ≤ block) :
    units magnitude < twoTo 52 * twoTo block := by
  unfold units
  split
  · rename_i small
    calc magnitude < twoTo 52 * 1 := by rwa [Nat.mul_one]
      _ ≤ twoTo 52 * twoTo block := Nat.mul_le_mul_left _ (twoTo_pos block)
  · rename_i normal
    have first : 0 < magnitude / twoTo 52 := Nat.div_pos (Nat.not_lt.mp normal) (twoTo_pos 52)
    have fraction : magnitude % twoTo 52 < twoTo 52 := Nat.mod_lt _ (twoTo_pos 52)
    have next : block - 1 + 1 = block := by omega
    calc (twoTo 52 + magnitude % twoTo 52) * twoTo (magnitude / twoTo 52 - 1)
        < twoTo 52 * 2 * twoTo (magnitude / twoTo 52 - 1) :=
          Nat.mul_lt_mul_of_pos_right (by omega) (twoTo_pos _)
      _ ≤ twoTo 52 * 2 * twoTo (block - 1) := Nat.mul_le_mul_left _ (twoTo_le (by omega))
      _ = twoTo 52 * twoTo (1 + (block - 1)) := by rw [twoTo_add, Nat.mul_assoc]; rfl
      _ = twoTo 52 * twoTo block := by rw [Nat.add_comm, next]

/-- Greater magnitudes are worth more. -/
theorem units_lt_units {m n : Nat} (less : m < n) : units m < units n := by
  have blocks : m / twoTo 52 ≤ n / twoTo 52 := Nat.div_le_div_right (Nat.le_of_lt less)
  have splitLeft := Nat.div_add_mod m (twoTo 52)
  have splitRight := Nat.div_add_mod n (twoTo 52)
  rcases Nat.lt_or_eq_of_le blocks with earlier | same
  · have normal : ¬ n < twoTo 52 := by
      intro small
      rw [Nat.div_eq_of_lt small] at earlier
      exact Nat.not_lt_zero _ earlier
    calc units m < twoTo 52 * twoTo (n / twoTo 52 - 1) := units_lt (by omega)
      _ ≤ (twoTo 52 + n % twoTo 52) * twoTo (n / twoTo 52 - 1) :=
          Nat.mul_le_mul_right _ (Nat.le_add_right ..)
      _ = units n := by rw [units, if_neg normal]
  · rw [same] at splitLeft
    by_cases small : n < twoTo 52
    · rw [units, units, if_pos (Nat.lt_trans less small), if_pos small]
      exact less
    · have normal : ¬ m < twoTo 52 := by
        intro first
        rw [Nat.div_eq_of_lt first] at same
        have := Nat.div_pos (Nat.not_lt.mp small) (twoTo_pos 52)
        omega
      rw [units, units, if_neg normal, if_neg small, same]
      exact Nat.mul_lt_mul_of_pos_right (by omega) (twoTo_pos _)

private theorem units_inj {m n : Nat} : units m = units n ↔ m = n := by
  constructor
  · intro same
    rcases Nat.lt_trichotomy m n with less | equal | greater
    · exact absurd same (Nat.ne_of_lt (units_lt_units less))
    · exact equal
    · exact absurd same.symm (Nat.ne_of_lt (units_lt_units greater))
  · rintro rfl
    rfl

private theorem units_zero : units 0 = 0 := if_pos (twoTo_pos 52)

/-- The number of units of a finite double, with its sign. -/
def signedUnits (x : Double) : Int :=
  if x.isNegative then -(units x.magnitude : Int) else (units x.magnitude : Int)

/-- A double is known by its sign and its magnitude. -/
theorem eq_iff (x y : Double) :
    x = y ↔ x.isNegative = y.isNegative ∧ x.magnitude = y.magnitude := by
  constructor
  · rintro rfl
    exact ⟨rfl, rfl⟩
  · rintro ⟨sign, magnitude⟩
    obtain ⟨a⟩ := x
    obtain ⟨b⟩ := y
    have small : a.toNat < 2 * twoTo 63 := a.toNat_lt
    have small' : b.toNat < 2 * twoTo 63 := b.toNat_lt
    simp only [isNegative, Double.magnitude, decide_eq_decide] at sign magnitude
    have positive := twoTo_pos 63
    have same : a.toNat = b.toNat := by
      have left := Nat.div_add_mod a.toNat (twoTo 63)
      have right := Nat.div_add_mod b.toNat (twoTo 63)
      by_cases negative : twoTo 63 ≤ a.toNat
      · have high : a.toNat / twoTo 63 = 1 :=
          Nat.div_eq_of_lt_le (by omega) (by omega)
        have high' : b.toNat / twoTo 63 = 1 :=
          Nat.div_eq_of_lt_le (by have := sign.mp negative; omega) (by omega)
        rw [high, magnitude] at left
        rw [high'] at right
        omega
      · have low' : ¬ twoTo 63 ≤ b.toNat := fun high => negative (sign.mpr high)
        rw [Nat.mod_eq_of_lt (Nat.not_le.mp negative), Nat.mod_eq_of_lt (Nat.not_le.mp low')]
          at magnitude
        exact magnitude
    rw [UInt64.toNat_inj.mp same]

/-- Finite doubles have the same signed units if they are one double or both zero. -/
theorem signedUnits_eq_iff (x y : Double) :
    x.signedUnits = y.signedUnits ↔ x = y ∨ x.isZero = true ∧ y.isZero = true := by
  have zero {z : Double} : z.isZero = true ↔ units z.magnitude = 0 := by
    rw [isZero, decide_eq_true_iff, ← units_inj, units_zero]
  rw [eq_iff, zero, zero, ← units_inj, signedUnits, signedUnits]
  cases x.isNegative <;> cases y.isNegative
  · simp only [Bool.false_eq_true, if_false, true_and]
    omega
  · simp only [Bool.false_eq_true, if_false, if_true, false_and, false_or]
    omega
  · simp only [Bool.false_eq_true, if_false, if_true, false_and, false_or, Bool.true_eq_false]
    omega
  · simp only [if_true, true_and]
    omega

end Double

namespace Extended

theorem ofDouble_of_finite {x : Double} (number : x.isNaN = false) (finite : x.isInfinite = false) :
    ∃ num den, ofDouble x = quotient num den ∧ 0 < den ∧
      num * (Double.twoTo 1074 : Int) = x.signedUnits * (den : Int) := by
  have worth := Double.ratio_eq_units x.magnitude
  have proper := Double.ratio_den_pos x.magnitude
  simp only [ofDouble, number, finite, Bool.false_eq_true, if_false]
  refine ⟨_, _, rfl, proper, ?_⟩
  rw [Double.signedUnits]
  zify at worth
  cases x.isNegative with
  | false => exact worth
  | true => rw [if_pos rfl, if_pos rfl, neg_mul, neg_mul, worth]

theorem ofDouble_of_infinite {x : Double} (infinity : x.isInfinite = true) :
    ofDouble x = infinite x.isNegative := by
  have number : x.isNaN = false := by
    simp only [Double.isInfinite, Double.isNaN, decide_eq_true_eq, decide_eq_false_iff_not]
      at infinity ⊢
    omega
  rw [ofDouble, number, infinity]
  rfl

theorem ofDouble_of_isNaN {x : Double} (undefined : x.isNaN = true) :
    ofDouble x = .undefined := by
  rw [ofDouble, undefined]
  rfl

private theorem same_undefined_right (x : Extended) : x.same .undefined = false := by
  cases x <;> rfl

/-- Quotients are the same if they make up the same multiple of one unit. -/
theorem same_quotient {num num' worth worth' unit : Int} {den den' : Nat} (proper : 0 < den)
    (proper' : 0 < den') (positive : 0 < unit) (left : num * unit = worth * den)
    (right : num' * unit = worth' * den') :
    (quotient num den).same (quotient num' den') = decide (worth = worth') := by
  have dens : (0 : Int) < (den : Int) * den' := by positivity
  have scaled : (num * den' - num' * den) * unit = (worth - worth') * ((den : Int) * den') := by
    linear_combination (den' : Int) * left - (den : Int) * right
  rw [same, decide_eq_decide]
  constructor
  · intro equal
    rw [equal, sub_self, zero_mul, eq_comm, mul_eq_zero] at scaled
    have zero := scaled.resolve_right dens.ne'
    omega
  · rintro rfl
    rw [sub_self, zero_mul, mul_eq_zero] at scaled
    have zero := scaled.resolve_right positive.ne'
    omega

theorem same_ofInt (m n : Int) : (ofInt m).same (ofInt n) = decide (m = n) := by
  simp [ofInt, same]

private theorem same_comm (x y : Extended) : x.same y = y.same x := by
  cases x <;> cases y <;> simp [same, BEq.comm, eq_comm]

/-- An infinite double is worth the same as no other. -/
theorem same_ofDouble_of_infinite {x y : Double} (infinity : x.isInfinite = true)
    (number : y.isNaN = false) : (ofDouble x).same (ofDouble y) = (x == y) := by
  rw [ofDouble_of_infinite infinity]
  cases infinity' : y.isInfinite with
  | true =>
    rw [ofDouble_of_infinite infinity', same, Bool.eq_iff_iff, beq_iff_eq, beq_iff_eq,
      Double.eq_iff]
    rw [Double.isInfinite, decide_eq_true_iff] at infinity infinity'
    rw [infinity, infinity', and_iff_left rfl]
  | false =>
    obtain ⟨num, den, value, -⟩ := ofDouble_of_finite number infinity'
    have apart : x ≠ y := by
      rintro rfl
      rw [infinity] at infinity'
      cases infinity'
    rw [value, beq_eq_false_iff_ne.mpr apart]
    rfl

private theorem isZero_of_infinite {x : Double} (infinity : x.isInfinite = true) :
    x.isZero = false := by
  rw [Double.isInfinite, decide_eq_true_iff] at infinity
  rw [Double.isZero, infinity]
  rfl

/-- Doubles are compared by their bits as they are by their worth. -/
theorem same_ofDouble (x y : Double) : (ofDouble x).same (ofDouble y) = x.sameNumber y := by
  cases number : x.isNaN with
  | true => simp [ofDouble_of_isNaN number, same, Double.sameNumber, number]
  | false =>
    cases number' : y.isNaN with
    | true => simp [ofDouble_of_isNaN number', same_undefined_right, Double.sameNumber, number']
    | false =>
      rw [Double.sameNumber, number, number', Bool.not_false, Bool.true_and, Bool.true_and]
      cases infinity : x.isInfinite with
      | true =>
        rw [same_ofDouble_of_infinite infinity number', isZero_of_infinite infinity,
          Bool.false_and, Bool.or_false]
      | false =>
        cases infinity' : y.isInfinite with
        | true =>
          rw [same_comm, same_ofDouble_of_infinite infinity' number,
            isZero_of_infinite infinity', Bool.and_false, Bool.or_false, BEq.comm]
        | false =>
          obtain ⟨num, den, value, proper, worth⟩ := ofDouble_of_finite number infinity
          obtain ⟨num', den', value', proper', worth'⟩ := ofDouble_of_finite number' infinity'
          have positive : (0 : Int) < (Double.twoTo 1074 : Int) := by
            exact_mod_cast Double.twoTo_pos 1074
          rw [value, value', same_quotient proper proper' positive worth worth', Bool.eq_iff_iff,
            decide_eq_true_iff, Double.signedUnits_eq_iff, Bool.or_eq_true, Bool.and_eq_true,
            beq_iff_eq]

end Extended

namespace Tree.Plain

/-- Plain values are equal exactly if they are of one type and alike. -/
theorem equal_iff_alike {a b : Plain} :
    a.equal b = true ↔ a.typeName = b.typeName ∧ a.alike b = true := by
  -- Values of different types have different type names, and are not equal.
  cases a with
  | bool p =>
    cases b with
    | bool q => cases p <;> cases q <;> decide
    | _ => simp [equal, typeName]
  | int m => cases b <;> simp [equal, typeName, alike, parts?, number?, Extended.same_ofInt]
  | float x => cases b <;> simp [equal, typeName, alike, parts?, number?, Extended.same_ofInt,
      Extended.same_ofDouble]
  | complex x y => cases b <;> simp [equal, typeName, alike, parts?, Extended.same_ofDouble]
  | _ => cases b <;> simp [equal, typeName, alike, parts?, number?]

end Tree.Plain

end CallSites
