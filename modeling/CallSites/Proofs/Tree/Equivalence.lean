import CallSites.Proofs.Tree.Equality

/-! # Structural equality is a partial equivalence

Equality is symmetric and transitive on all values. A value equals itself exactly when no NaN is
reachable from it through slots and lists: a NaN is the only plain value that differs from itself.
The slots of two nodes are compared as if the shorter list went on with slots that read as null, so
each law is shown once for a slot on both sides and once for a slot beyond the end.
-/

namespace CallSites.Tree

namespace Plain

/-- Whether a value is a NaN, or a complex number with such a part. -/
def isNaN : Plain → Bool
  | float x => x.isNaN
  | complex re im => re.isNaN || im.isNaN
  | _ => false

theorem equal_self (a : Plain) : a.equal a = !a.isNaN := by
  cases a <;> simp [equal, isNaN, Double.sameNumber_self]

theorem equal_comm (a b : Plain) : a.equal b = b.equal a := by
  -- Values of different types differ either way.
  cases a <;> cases b <;> first | rfl | simp [equal, Double.sameNumber_comm, BEq.comm]

/-- Equal values are one value, but for numbers of which one may be written in two ways. -/
theorem equal_cases {a b : Plain} (same : a.equal b = true) :
    a = b ∨ (∃ x y, a = float x ∧ b = float y ∧ x.sameNumber y = true) ∨
      ∃ x x' y y', a = complex x x' ∧ b = complex y y' ∧ x.sameNumber y = true ∧
        x'.sameNumber y' = true := by
  cases a with
  | float x =>
    cases b with
    | float y => exact .inr (.inl ⟨x, y, rfl, rfl, same⟩)
    | _ => cases same
  | complex x x' =>
    cases b with
    | complex y y' =>
      rw [equal, Bool.and_eq_true] at same
      exact .inr (.inr ⟨x, x', y, y', rfl, rfl, same⟩)
    | _ => cases same
  | _ =>
    left
    cases b <;> simp_all [equal]

theorem equal_trans {a b c : Plain} (left : a.equal b = true) (right : b.equal c = true) :
    a.equal c = true := by
  obtain rfl | ⟨x, y, rfl, rfl, same⟩ | ⟨x, x', y, y', rfl, rfl, same, same'⟩ := equal_cases left
  · exact right
  · cases c with
    | float z => exact Double.sameNumber_trans same right
    | _ => cases right
  · cases c with
    | complex z z' =>
      simp only [equal, Bool.and_eq_true] at right ⊢
      exact ⟨Double.sameNumber_trans same right.1, Double.sameNumber_trans same' right.2⟩
    | _ => cases right

end Plain

namespace Value

mutual

/-- Whether no NaN is reachable from a value through slots and lists. -/
def nanFree : Value → Bool
  | plain _ content => !content.isNaN
  | list _ items => nanFreeItems items
  | node _ _ slots _ => nanFreeSlots slots

def nanFreeItems : List Value → Bool
  | [] => true
  | v :: rest => nanFree v && nanFreeItems rest

def nanFreeSlots : List (Option Value) → Bool
  | [] => true
  | none :: rest => nanFreeSlots rest
  | some v :: rest => nanFree v && nanFreeSlots rest

end

theorem equalSlots_nil_right (xs : List (Option Value)) :
    equalSlots xs [] = xs.all fun slot => (reading slot).isNull := by
  induction xs with
  | nil => rfl
  | cons x xs ih => cases x <;> simp [equalSlots, ih, reading, isNull, null]

theorem equalSlots_cons_cons (x y : Option Value) (xs ys : List (Option Value)) :
    equalSlots (x :: xs) (y :: ys) = ((reading x).equal (reading y) && equalSlots xs ys) := by
  cases x with
  | none => exact congrArg (· && equalSlots xs ys) (equal_null_left (reading y)).symm
  | some x => rfl

mutual

/-- A value equals itself exactly when it is free of NaN. -/
theorem equal_self (v : Value) : v.equal v = v.nanFree := by
  cases v with
  | plain tag content => exact content.equal_self
  | list tag items => exact equalItems_self items
  | node tag kind slots marks => simp only [equal, nanFree, beq_self_eq_true, Bool.true_and,
      equalSlots_self slots]

private theorem equalItems_self (xs : List Value) : equalItems xs xs = nanFreeItems xs := by
  cases xs with
  | nil => rfl
  | cons x xs => rw [equalItems, nanFreeItems, equal_self x, equalItems_self xs]

private theorem equalSlots_self (xs : List (Option Value)) :
    equalSlots xs xs = nanFreeSlots xs := by
  cases xs with
  | nil => rfl
  | cons x xs =>
    rw [equalSlots_cons_cons, equalSlots_self xs]
    cases x with
    | none => rfl
    | some x => rw [nanFreeSlots, reading, Option.getD_some, equal_self x]

end

mutual

theorem equal_comm (v w : Value) : v.equal w = w.equal v := by
  cases v with
  | plain tag content =>
    cases w with
    | plain tag' content' => exact content.equal_comm content'
    | _ => rfl
  | list tag items =>
    cases w with
    | list tag' items' => exact equalItems_comm items items'
    | _ => rfl
  | node tag kind slots marks =>
    cases w with
    | node tag' kind' slots' marks' =>
      rw [equal, equal, BEq.comm, equalSlots_comm slots slots']
    | _ => rfl

private theorem equalItems_comm (xs ys : List Value) : equalItems xs ys = equalItems ys xs := by
  cases xs with
  | nil => cases ys <;> rfl
  | cons x xs =>
    cases ys with
    | nil => rfl
    | cons y ys => rw [equalItems, equalItems, equal_comm x y, equalItems_comm xs ys]

private theorem equalSlots_comm (xs ys : List (Option Value)) :
    equalSlots xs ys = equalSlots ys xs := by
  cases xs with
  | nil => rw [equalSlots_nil_right, equalSlots]
  | cons x xs =>
    cases ys with
    | nil => rw [equalSlots_nil_right, equalSlots]
    | cons y ys =>
      rw [equalSlots_cons_cons, equalSlots_cons_cons, equalSlots_comm xs ys]
      cases x with
      | none => rw [reading, Option.getD_none, equal_null_left, equal_null_right]
      | some x => rw [reading, Option.getD_some, equal_comm x (reading y)]

end

/-- Equality sees nothing but the shape of the right tree. -/
theorem equal_shape_right (v w : Value) : v.equal w.shape = v.equal w := by
  rw [equal_comm, equal_shape_left, equal_comm]

/-- Null equals null alone, whatever its tag is. -/
theorem equal_eq_isNull {v : Value} (isNull : v.isNull = true) (w : Value) :
    v.equal w = w.isNull := by
  cases v with
  | plain tag content =>
    cases content with
    | null =>
      cases w with
      | plain tag' content' => cases content' <;> rfl
      | _ => rfl
    | _ => cases isNull
  | _ => cases isNull

/-- Slots that read as null throughout are equal, however many there are. -/
theorem equalSlots_of_isNull {xs ys : List (Option Value)}
    (left : xs.all (fun slot => (reading slot).isNull) = true)
    (right : ys.all (fun slot => (reading slot).isNull) = true) : equalSlots xs ys = true := by
  induction xs generalizing ys with
  | nil => exact right
  | cons x xs ih =>
    cases ys with
    | nil => rwa [equalSlots_nil_right]
    | cons y ys =>
      simp only [equalSlots_cons_cons, List.all_cons, Bool.and_eq_true] at left right ⊢
      exact ⟨(equal_eq_isNull left.1 _).trans right.1, ih left.2 right.2⟩

/-- Where one list of slots reads as null throughout, so does every equal one. -/
theorem all_isNull_of_equalSlots {xs ys : List (Option Value)} (same : equalSlots xs ys = true)
    (empty : xs.all (fun slot => (reading slot).isNull) = true) :
    ys.all (fun slot => (reading slot).isNull) = true := by
  induction xs generalizing ys with
  | nil => exact same
  | cons x xs ih =>
    cases ys with
    | nil => rfl
    | cons y ys =>
      simp only [equalSlots_cons_cons, List.all_cons, Bool.and_eq_true] at same empty ⊢
      exact ⟨(equal_eq_isNull empty.1 _).symm.trans same.1, ih same.2 empty.2⟩

mutual

theorem equal_trans {u v w : Value} (left : u.equal v = true) (right : v.equal w = true) :
    u.equal w = true := by
  cases u with
  | plain tag a =>
    cases v with
    | plain tag' b =>
      cases w with
      | plain tag'' c => exact Plain.equal_trans left right
      | _ => cases right
    | _ => cases left
  | list tag xs =>
    cases v with
    | list tag' ys =>
      cases w with
      | list tag'' zs => exact equalItems_trans left right
      | _ => cases right
    | _ => cases left
  | node tag kind xs marks =>
    cases v with
    | node tag' kind' ys marks' =>
      cases w with
      | node tag'' kind'' zs marks'' =>
        simp only [equal, Bool.and_eq_true, beq_iff_eq] at left right ⊢
        exact ⟨left.1.trans right.1, equalSlots_trans left.2 right.2⟩
      | _ => cases right
    | _ => cases left

private theorem equalItems_trans {xs ys zs : List Value} (left : equalItems xs ys = true)
    (right : equalItems ys zs = true) : equalItems xs zs = true := by
  cases xs with
  | nil =>
    cases ys with
    | nil => exact right
    | cons => cases left
  | cons x xs =>
    cases ys with
    | nil => cases left
    | cons y ys =>
      cases zs with
      | nil => cases right
      | cons z zs =>
        simp only [equalItems, Bool.and_eq_true] at left right ⊢
        exact ⟨equal_trans (u := x) left.1 right.1, equalItems_trans left.2 right.2⟩

private theorem equalSlots_trans {xs ys zs : List (Option Value)} (left : equalSlots xs ys = true)
    (right : equalSlots ys zs = true) : equalSlots xs zs = true := by
  cases ys with
  | nil =>
    -- A middle list that has ended reads as null, and so do both others.
    exact equalSlots_of_isNull ((equalSlots_nil_right xs).symm.trans left) right
  | cons y ys =>
    cases xs with
    | nil => exact all_isNull_of_equalSlots right left
    | cons x xs =>
      cases zs with
      | nil =>
        rw [equalSlots_comm] at left right ⊢
        exact all_isNull_of_equalSlots left right
      | cons z zs =>
        simp only [equalSlots_cons_cons, Bool.and_eq_true] at left right ⊢
        refine ⟨?_, equalSlots_trans left.2 right.2⟩
        cases x with
        | none =>
          have middle : (reading y).isNull = true := (equal_null_left _).symm.trans left.1
          exact (equal_null_left _).trans ((equal_eq_isNull middle _).symm.trans right.1)
        | some x => exact equal_trans (u := x) left.1 right.1

end

end Value

end CallSites.Tree
