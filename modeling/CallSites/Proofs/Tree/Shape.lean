import CallSites.Tree.Display
import CallSites.Tree.Walk
import Mathlib.Data.List.Forall2

/-! # The shape of a tree

The shape of a tree is what remains of it without tags and marks: its kinds, its slots and its plain
values. Copies without marks and copies with new tags have the shape of the original, and trees of
one shape hold in every slot values of one shape.
-/

namespace CallSites.Tree.Value

mutual

/-- The tree with all tags zero and without marks. -/
def shape : Value → Value
  | plain _ content => plain 0 content
  | list _ items => list 0 (shapeItems items)
  | node _ kind slots _ => node 0 kind (shapeSlots slots) []

def shapeItems : List Value → List Value
  | [] => []
  | v :: rest => shape v :: shapeItems rest

def shapeSlots : List (Option Value) → List (Option Value)
  | [] => []
  | none :: rest => none :: shapeSlots rest
  | some v :: rest => some (shape v) :: shapeSlots rest

end

mutual

@[simp] theorem shape_purify (v : Value) : v.purify.shape = v.shape := by
  cases v with
  | plain tag content => rfl
  | list tag items => rw [purify, shape, shape, shapeItems_purifyItems items]
  | node tag kind slots marks => rw [purify, shape, shape, shapeSlots_purifySlots slots]

private theorem shapeItems_purifyItems (items : List Value) :
    shapeItems (purifyItems items) = shapeItems items := by
  cases items with
  | nil => rfl
  | cons v rest => rw [purifyItems, shapeItems, shapeItems, shape_purify v,
      shapeItems_purifyItems rest]

private theorem shapeSlots_purifySlots (slots : List (Option Value)) :
    shapeSlots (purifySlots slots) = shapeSlots slots := by
  cases slots with
  | nil => rfl
  | cons slot rest =>
    cases slot with
    | none => rw [purifySlots, shapeSlots, shapeSlots, shapeSlots_purifySlots rest]
    | some v => rw [purifySlots, shapeSlots, shapeSlots, shape_purify v,
        shapeSlots_purifySlots rest]

end

mutual

@[simp] theorem shape_retag (next : Nat) (v : Value) : (v.retag next).1.shape = v.shape := by
  cases v with
  | plain tag content => rfl
  | list tag items => simp only [retag, shape, shapeItems_retagItems (next + 1) items]
  | node tag kind slots marks => simp only [retag, shape, shapeSlots_retagSlots (next + 1) slots]

private theorem shapeItems_retagItems (next : Nat) (items : List Value) :
    shapeItems (retagItems next items).1 = shapeItems items := by
  cases items with
  | nil => rfl
  | cons v rest => simp only [retagItems, shapeItems, shape_retag next v,
      shapeItems_retagItems _ rest]

private theorem shapeSlots_retagSlots (next : Nat) (slots : List (Option Value)) :
    shapeSlots (retagSlots next slots).1 = shapeSlots slots := by
  cases slots with
  | nil => rfl
  | cons slot rest =>
    cases slot with
    | none => simp only [retagSlots, shapeSlots, shapeSlots_retagSlots next rest]
    | some v => simp only [retagSlots, shapeSlots, shape_retag next v,
        shapeSlots_retagSlots _ rest]

end

/-! ### What can be read off the shape -/

@[simp] theorem kind?_shape (v : Value) : v.shape.kind? = v.kind? := by cases v <;> rfl

@[simp] theorem plain?_shape (v : Value) : v.shape.plain? = v.plain? := by cases v <;> rfl

@[simp] theorem isNode_shape (v : Value) : v.shape.isNode = v.isNode := by cases v <;> rfl

@[simp] theorem isNull_shape (v : Value) : v.shape.isNull = v.isNull := by
  cases v with
  | plain tag content => cases content <;> rfl
  | _ => rfl

@[simp] theorem text?_shape (v : Value) : v.shape.text? = v.text? := by
  cases v with
  | plain tag content => cases content <;> rfl
  | _ => rfl

@[simp] theorem codes?_shape (v : Value) : v.shape.codes? = v.codes? := by cases v <;> rfl

@[simp] theorem typeName_shape (v : Value) : v.shape.typeName = v.typeName := by cases v <;> rfl

@[simp] theorem isExpression_shape (v : Value) : v.shape.isExpression = v.isExpression := by
  cases v <;> rfl

@[simp] theorem truthy_shape (v : Value) : v.shape.truthy = v.truthy := by
  cases v with
  | list tag items => cases items <;> rfl
  | _ => rfl

mutual

@[simp] theorem height_shape (v : Value) : v.shape.height = v.height := by
  cases v with
  | plain tag content => rfl
  | list tag items => rw [shape, height, height, itemsHeight_shapeItems items]
  | node tag kind slots marks => rw [shape, height, height, slotsHeight_shapeSlots slots]

private theorem itemsHeight_shapeItems (items : List Value) :
    itemsHeight (shapeItems items) = itemsHeight items := by
  cases items with
  | nil => rfl
  | cons v rest => rw [shapeItems, itemsHeight, itemsHeight, height_shape v,
      itemsHeight_shapeItems rest]

private theorem slotsHeight_shapeSlots (slots : List (Option Value)) :
    slotsHeight (shapeSlots slots) = slotsHeight slots := by
  cases slots with
  | nil => rfl
  | cons slot rest =>
    cases slot with
    | none => rw [shapeSlots, slotsHeight, slotsHeight, slotsHeight_shapeSlots rest]
    | some v => rw [shapeSlots, slotsHeight, slotsHeight, height_shape v,
        slotsHeight_shapeSlots rest]

end

mutual

@[simp] theorem displayItem_shape (v : Value) : v.shape.displayItem = v.displayItem := by
  cases v with
  | list tag items => rw [shape, displayItem, displayItem, displayItems_shapeItems items]
  | _ => rfl

private theorem displayItems_shapeItems (items : List Value) :
    displayItems (shapeItems items) = displayItems items := by
  cases items with
  | nil => rfl
  | cons v rest => rw [shapeItems, displayItems, displayItems, displayItem_shape v,
      displayItems_shapeItems rest]

end

mutual

@[simp] theorem isTooLong_shape (v : Value) : v.shape.isTooLong = v.isTooLong := by
  cases v with
  | list tag items => exact itemsTooLong_shapeItems items
  | _ => rfl

private theorem itemsTooLong_shapeItems (items : List Value) :
    itemsTooLong (shapeItems items) = itemsTooLong items := by
  cases items with
  | nil => rfl
  | cons v rest => rw [shapeItems, itemsTooLong, itemsTooLong, isTooLong_shape v,
      itemsTooLong_shapeItems rest]

end

/-- What can be read off the shape is the same for trees of one shape. -/
theorem eq_of_shape {α : Type} {f : Value → α} (blind : ∀ v : Value, f v.shape = f v) {v w : Value}
    (same : v.shape = w.shape) : f v = f w := by
  rw [← blind v, same, blind w]

/-! ### Parts of trees of one shape -/

/-- Two values of one shape. -/
def SameShape (v w : Value) : Prop := v.shape = w.shape

theorem forall₂_of_shapeItems {xs ys : List Value} (same : shapeItems xs = shapeItems ys) :
    List.Forall₂ SameShape xs ys := by
  induction xs generalizing ys with
  | nil =>
    cases ys with
    | nil => exact .nil
    | cons => simp [shapeItems] at same
  | cons x xs ih =>
    cases ys with
    | nil => simp [shapeItems] at same
    | cons y ys =>
      simp only [shapeItems, List.cons.injEq] at same
      exact .cons same.1 (ih same.2)

/-- Slots of one shape are filled at the same places, with values of one shape. -/
theorem forall₂_of_shapeSlots {xs ys : List (Option Value)} (same : shapeSlots xs = shapeSlots ys) :
    List.Forall₂ (Option.Rel SameShape) xs ys := by
  induction xs generalizing ys with
  | nil =>
    cases ys with
    | nil => exact .nil
    | cons y ys => cases y <;> simp [shapeSlots] at same
  | cons x xs ih =>
    cases ys with
    | nil => cases x <;> simp [shapeSlots] at same
    | cons y ys =>
      cases x with
      | none =>
        cases y with
        | none =>
          simp only [shapeSlots, List.cons.injEq, true_and] at same
          exact .cons .none (ih same)
        | some => simp [shapeSlots] at same
      | some =>
        cases y with
        | none => simp [shapeSlots] at same
        | some =>
          simp only [shapeSlots, List.cons.injEq, Option.some.injEq] at same
          exact .cons (.some same.1) (ih same.2)

theorem slotChildren_of_shape {x y : Option Value} (same : Option.Rel SameShape x y) :
    List.Forall₂ SameShape (slotChildren x) (slotChildren y) := by
  cases same with
  | none => exact .nil
  | @some v w same =>
    cases v with
    | plain =>
      cases w with
      | plain => exact .nil
      | _ => simp [SameShape, shape] at same
    | list tag xs =>
      cases w with
      | list tag' ys =>
        simp only [SameShape, shape, list.injEq, true_and] at same
        exact List.rel_filter (fun _ _ both =>
          iff_of_eq (congrArg (· = true) (eq_of_shape isNode_shape both)))
          (forall₂_of_shapeItems same)
      | _ => simp [SameShape, shape] at same
    | node =>
      cases w with
      | node => exact .cons same .nil
      | _ => simp [SameShape, shape] at same

/-- Slots that are related place by place are related field by field. -/
theorem slot?_rel {R : Value → Value → Prop} {xs ys : List (Option Value)}
    (related : List.Forall₂ (Option.Rel R) xs ys) (name : String) (names : List String) :
    Option.Rel R (slot? name names xs) (slot? name names ys) := by
  induction names generalizing xs ys with
  | nil => exact .none
  | cons field names ih =>
    cases related with
    | nil => exact .none
    | cons head rest =>
      simp only [slot?]
      split
      · exact head
      · exact ih rest

end CallSites.Tree.Value
