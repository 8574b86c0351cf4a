import CallSites.Location
import CallSites.Proofs.Number.Comparison

/-! # Calls that have a location

A location is made of a line, a column and a last line that are numbers of any type. The checks of
`Location.make` ask whether a number lies below another, so they let pass what cannot be compared. A
value is placed if it has no line, or if its line is at least one, its column at least zero and its
last line, where there is one, at least its line. Every placed value has a location.
-/

namespace CallSites

open CallSites.Tree (Plain Value)

namespace Extended

/-- Whether the first number lies above the second or is the same. -/
def atLeast (x bound : Extended) : Bool := bound.below x || bound.same x

theorem atLeast_ofInt (m n : Int) : (ofInt m).atLeast (ofInt n) = decide (n ≤ m) := by
  rw [atLeast, same_ofInt, ofInt, ofInt, below, ← Bool.decide_or, decide_eq_decide]
  omega

private theorem below_of_atLeast {x bound : Extended} (least : x.atLeast bound = true) :
    x.below bound = false := by
  rw [atLeast, Bool.or_eq_true] at least
  cases x with
  | undefined => rfl
  | infinite negative =>
    cases bound with
    | infinite negative' => cases negative <;> cases negative' <;> simp [below, same] at least ⊢
    | _ => cases negative <;> simp [below, same] at least ⊢
  | quotient num den =>
    cases bound with
    | quotient num' den' =>
      simp only [below, same, decide_eq_true_eq, decide_eq_false_iff_not] at least ⊢
      omega
    | infinite negative => cases negative <;> simp [below, same] at least ⊢
    | undefined => rfl

/-- Whether a quotient has a denominator that is not zero. -/
def isProper : Extended → Bool
  | quotient _ den => decide (0 < den)
  | _ => true

private theorem isProper_ofDouble (x : Double) : (ofDouble x).isProper = true := by
  cases undefined : x.isNaN with
  | true => rw [ofDouble_of_isNaN undefined]; rfl
  | false =>
    cases infinity : x.isInfinite with
    | true => rw [ofDouble_of_infinite infinity]; rfl
    | false =>
      obtain ⟨num, den, worth, proper, -⟩ := ofDouble_of_finite undefined infinity
      rw [worth, isProper, decide_eq_true_iff]
      exact proper

/-- A number that is at least one is neither zero nor below it. -/
theorem positive_of_atLeast_one {x : Extended} (proper : x.isProper = true)
    (least : x.atLeast (.ofInt 1) = true) :
    (x.below (.ofInt 0) || x.same (.ofInt 0)) = false := by
  cases x with
  | undefined => cases least
  | infinite negative =>
    cases negative with
    | true => cases least
    | false => rfl
  | quotient num den =>
    rw [isProper, decide_eq_true_iff] at proper
    simp only [atLeast, ofInt, below, same, Bool.or_eq_true, decide_eq_true_eq] at least
    simp only [ofInt, below, same, Bool.or_eq_false_iff, decide_eq_false_iff_not]
    omega

end Extended

namespace Tree

private theorem Plain.isProper_of_number? {content : Plain} {n : Extended}
    (isNumber : content.number? = some n) : n.isProper = true := by
  cases content with
  | bool b => cases isNumber; rfl
  | int m => cases isNumber; rfl
  | float x => cases isNumber; exact Extended.isProper_ofDouble x
  | _ => cases isNumber

namespace Value

/-- The number that a value is, if it can be ordered. -/
def number? (v : Value) : Option Extended := v.plain?.bind Plain.number?

theorem isProper_of_number? {v : Value} {n : Extended} (isNumber : v.number? = some n) :
    n.isProper = true := by
  obtain ⟨content, -, worth⟩ := Option.bind_eq_some_iff.mp isNumber
  exact Plain.isProper_of_number? worth

/-- Whether a value has no line, or a line that is at least one, a column that is at least zero and
a last line that is at least the line, where it has them. -/
def isPlaced (v : Value) : Bool :=
  (v.attr "lineno").isNull || (v.attr "lineno").number?.any fun line =>
    line.atLeast (.ofInt 1) &&
    (v.attr? "col_offset").all (fun column => column.number?.any (·.atLeast (.ofInt 0))) &&
    ((v.attr "end_lineno").isNull || (v.attr "end_lineno").number?.any (·.atLeast line))

end Value

end Tree

private theorem Fault.exists_operand {v : Value} {n : Extended} (isNumber : v.number? = some n) :
    ∃ content, ∀ operator rightType, operand operator v rightType = .ok (content, n) := by
  obtain ⟨content, held, worth⟩ := Option.bind_eq_some_iff.mp isNumber
  refine ⟨content, ?_⟩
  intro operator rightType
  simp only [operand, held, worth]

namespace Location

/-- Numbers that no check finds too low make a location. -/
theorem exists_make_eq_ok {line column endLine : Value} {first offset : Extended}
    (endColumn : Value) (isLine : line.number? = some first)
    (positive : (first.below (.ofInt 0) || first.same (.ofInt 0)) = false)
    (isColumn : column.number? = some offset) (inLine : offset.below (.ofInt 0) = false)
    (inOrder : endLine.isNull = true ∨
      ∃ last, endLine.number? = some last ∧ last.below first = false) :
    ∃ location, make line column endLine endColumn = .ok location := by
  obtain ⟨lineContent, lineRead⟩ := Fault.exists_operand isLine
  obtain ⟨columnContent, columnRead⟩ := Fault.exists_operand isColumn
  simp only [make, lineRead, columnRead, bind, Except.bind, positive, inLine, Bool.false_eq_true,
    if_false]
  rcases inOrder with noEnd | ⟨last, isLast, below⟩
  · rw [noEnd]
    exact ⟨_, rfl⟩
  · obtain ⟨endContent, endRead⟩ := Fault.exists_operand isLast
    cases noEnd : endLine.isNull with
    | true => exact ⟨_, rfl⟩
    | false =>
      simp only [endRead, below, Bool.false_eq_true, if_false]
      exact ⟨_, rfl⟩

/-- Every placed value has a location. -/
theorem exists_of_isPlaced {v : Value} (placed : v.isPlaced = true) :
    ∃ location, of v = .ok location := by
  rw [of]
  cases noLine : (v.attr "lineno").isNull with
  | true => exact ⟨start, rfl⟩
  | false =>
    rw [Value.isPlaced, noLine, Bool.false_or, Option.any_eq_true] at placed
    obtain ⟨line, isLine, inOrder⟩ := placed
    simp only [Bool.and_eq_true, Bool.or_eq_true] at inOrder
    obtain ⟨⟨least, inLine⟩, ends⟩ := inOrder
    have positive := Extended.positive_of_atLeast_one (Value.isProper_of_number? isLine) least
    have column : ∃ offset, ((v.attr? "col_offset").getD (.int 0)).number? = some offset ∧
        offset.below (.ofInt 0) = false := by
      cases held : v.attr? "col_offset" with
      | none => exact ⟨.ofInt 0, rfl, Extended.below_self _⟩
      | some column =>
        rw [held, Option.all_some, Option.any_eq_true] at inLine
        obtain ⟨offset, isOffset, least⟩ := inLine
        exact ⟨offset, isOffset, Extended.below_of_atLeast least⟩
    obtain ⟨offset, isColumn, notLeft⟩ := column
    refine exists_make_eq_ok _ isLine positive isColumn notLeft ?_
    rcases ends with noEnd | bounded
    · exact Or.inl noEnd
    · rw [Option.any_eq_true] at bounded
      obtain ⟨last, isLast, least⟩ := bounded
      exact Or.inr ⟨last, isLast, Extended.below_of_atLeast least⟩

end Location

end CallSites
