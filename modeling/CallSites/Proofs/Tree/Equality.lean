import CallSites.Proofs.Tree.Shape
import CallSites.Tree.Equality

/-! # What structural equality sees

Equality looks at shapes alone, so a tree and its copy without marks are equal to the same trees.
Equal slots read alike at every field, where an empty slot and one beyond the end count as null.
-/

namespace CallSites.Tree.Value

mutual

/-- Equality sees nothing but the shape of the left tree. -/
theorem equal_shape_left (v w : Value) : v.shape.equal w = v.equal w := by
  cases v with
  | plain tag content => cases w <;> rfl
  | list tag items =>
    cases w with
    | list tag' items' => simp only [shape, equal, equalItems_shape_left items items']
    | _ => rfl
  | node tag kind slots marks =>
    cases w with
    | node tag' kind' slots' marks' =>
      simp only [shape, equal, equalSlots_shape_left slots slots']
    | _ => rfl

private theorem equalItems_shape_left (xs ys : List Value) :
    equalItems (shapeItems xs) ys = equalItems xs ys := by
  cases xs with
  | nil => rfl
  | cons x xs =>
    cases ys with
    | nil => rfl
    | cons y ys =>
      simp only [shapeItems, equalItems, equal_shape_left x y, equalItems_shape_left xs ys]

private theorem equalSlots_shape_left (xs ys : List (Option Value)) :
    equalSlots (shapeSlots xs) ys = equalSlots xs ys := by
  cases xs with
  | nil => rfl
  | cons x xs =>
    cases x with
    | none =>
      cases ys with
      | nil => simp only [shapeSlots, equalSlots, equalSlots_shape_left xs []]
      | cons y ys => simp only [shapeSlots, equalSlots, equalSlots_shape_left xs ys]
    | some x =>
      cases ys with
      | nil => simp only [shapeSlots, equalSlots, isNull_shape, equalSlots_shape_left xs []]
      | cons y ys =>
        simp only [shapeSlots, equalSlots, equal_shape_left x (reading y),
          equalSlots_shape_left xs ys]

end

/-- Equality does not see whether the left tree still has its marks. -/
theorem equal_purify_left (v w : Value) : v.purify.equal w = v.equal w := by
  rw [← equal_shape_left, shape_purify, equal_shape_left]

theorem equal_null_left (w : Value) : null.equal w = w.isNull := by
  cases w with
  | plain tag content => cases content <;> rfl
  | _ => rfl

theorem equal_null_right (v : Value) : v.equal null = v.isNull := by
  cases v with
  | plain tag content => cases content <;> rfl
  | _ => rfl

/-- Where every slot reads as null, so does the slot of each field. -/
theorem isNull_slot? {name : String} {names : List String} {slots : List (Option Value)}
    (empty : slots.all (fun slot => (reading slot).isNull) = true) :
    (reading (slot? name names slots)).isNull = true := by
  induction names generalizing slots with
  | nil => rfl
  | cons field names ih =>
    cases slots with
    | nil => rfl
    | cons slot slots =>
      simp only [List.all_cons, Bool.and_eq_true] at empty
      simp only [slot?]
      split
      · exact empty.1
      · exact ih empty.2

/-- Equal slots read alike at every field, whatever names the fields have. -/
theorem equal_slot? {xs ys : List (Option Value)} (same : equalSlots xs ys = true)
    (name : String) (names : List String) :
    (reading (slot? name names xs)).equal (reading (slot? name names ys)) = true := by
  induction names generalizing xs ys with
  | nil => rfl
  | cons field names ih =>
    cases xs with
    | nil =>
      simp only [equalSlots] at same
      exact (equal_null_left _).trans (isNull_slot? same)
    | cons x xs =>
      cases ys with
      | nil =>
        have rest : equalSlots xs [] = true := by cases x <;> simp_all [equalSlots]
        have tail := ih rest
        simp only [slot?] at tail ⊢
        split
        · cases x with
          | none => rfl
          | some x =>
            simp only [equalSlots, Bool.and_eq_true] at same
            exact (equal_null_right x).trans same.1
        · simpa only [slot?] using tail
      | cons y ys =>
        simp only [slot?]
        split
        · cases x with
          | none =>
            simp only [equalSlots, Bool.and_eq_true] at same
            exact (equal_null_left _).trans same.1
          | some x =>
            simp only [equalSlots, Bool.and_eq_true] at same
            exact same.1
        · exact ih (by cases x <;> simp_all [equalSlots])

end CallSites.Tree.Value
