import CallSites.Tree.Value

/-! # Structural equality

Two trees are equal when they have the same kinds, fields and plain values. Marks and tags play no
part, an empty slot reads as null, and plain values are equal when they are of one type and
numerically the same. `alike` is a coarser comparison of single values: numbers of all types are
compared with each other, and nodes are told apart as objects.
-/

namespace CallSites.Tree.Value

mutual

/-- Structural equality of values. -/
def equal : Value → Value → Bool
  | plain _ a, plain _ b => a.equal b
  | list _ xs, list _ ys => equalItems xs ys
  | node _ kind slots _, node _ kind' slots' _ => kind == kind' && equalSlots slots slots'
  | _, _ => false

/-- Lists are equal when they are equally long and equal item by item. -/
def equalItems : List Value → List Value → Bool
  | [], [] => true
  | x :: xs, y :: ys => equal x y && equalItems xs ys
  | _, _ => false

/-- Slots are compared by what they read as; slots beyond the end read as null. -/
def equalSlots : List (Option Value) → List (Option Value) → Bool
  | [], slots => slots.all fun slot => (reading slot).isNull
  | none :: xs, [] => equalSlots xs []
  | some x :: xs, [] => x.isNull && equalSlots xs []
  | none :: xs, y :: ys => (reading y).isNull && equalSlots xs ys
  | some x :: xs, y :: ys => equal x (reading y) && equalSlots xs ys

end

mutual

/-- Whether two values are one object, or plain values that are alike, or lists of such values. -/
def alike : Value → Value → Bool
  | plain tag a, plain tag' b => (plain tag a).same (plain tag' b) || a.alike b
  | list tag xs, list tag' ys => tag == tag' || alikeItems xs ys
  | node tag _ _ _, node tag' _ _ _ => tag == tag'
  | _, _ => false

def alikeItems : List Value → List Value → Bool
  | [], [] => true
  | x :: xs, y :: ys => alike x y && alikeItems xs ys
  | _, _ => false

end

end CallSites.Tree.Value
