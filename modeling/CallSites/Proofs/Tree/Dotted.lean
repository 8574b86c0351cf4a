import CallSites.Proofs.Tree.Depth
import CallSites.Proofs.Tree.Equivalence

/-! # Dotted paths

The trees of names joined by dots: how deep they are under the standard table, how high they are,
and that each equals itself.
-/

namespace CallSites.Tree.Value

/-- A tree is names joined by dots. -/
inductive IsDotted : List String → Value → Prop
  | name {tag tag' usage : Nat} {name : String} {marks : List (String × Value)} :
      IsDotted [name]
        (node tag .name [some (plain tag' (.str name)), some (node usage .load [] [])] marks)
  | member {path : List String} {v : Value} {tag tag' usage : Nat} {name : String}
      {marks : List (String × Value)} (below : IsDotted path v) :
      IsDotted (path ++ [name]) (node tag .attributeRef
        [some v, some (plain tag' (.str name)), some (node usage .load [] [])] marks)

namespace IsDotted

variable {path : List String} {v : Value}

theorem ne_nil (isDotted : IsDotted path v) : path ≠ [] := by
  cases isDotted with
  | name => exact List.cons_ne_nil _ _
  | member => simp

theorem isNode (isDotted : IsDotted path v) : v.isNode = true := by
  cases isDotted <;> rfl

theorem equal_self (isDotted : IsDotted path v) : v.equal v = true := by
  rw [Value.equal_self]
  induction isDotted with
  | name => rfl
  | member _ ih => simp [nanFree, nanFreeSlots, ih, Plain.isNaN]

theorem length_le_height (isDotted : IsDotted path v) : path.length ≤ v.height := by
  induction isDotted with
  | name => simp [height, slotsHeight]
  | member _ ih =>
    simp only [height, slotsHeight, List.length_append, List.length_singleton]
    omega

/-- Each dot is one step down. -/
theorem depthFrom_standard (isDotted : IsDotted path v) (current : Nat) :
    depthFrom .standard none current v = current + (path.length - 1) := by
  induction isDotted generalizing current with
  | @name tag tag' usage name marks =>
    have row : TraversalKeys.standard.row .name = ["id"] := by decide +kernel
    have bare : steps .standard (node tag .name
        [some (plain tag' (.str name)), some (node usage .load [] [])] marks) = [] := by
      rw [steps, row]
      rfl
    rw [depthFrom_eq_foldl, bare]
    rfl
  | @member path v tag tag' usage name marks below ih =>
    have row : TraversalKeys.standard.row .attributeRef = ["value", "attr"] := by decide +kernel
    have down : steps .standard (node tag .attributeRef
        [some v, some (plain tag' (.str name)), some (node usage .load [] [])] marks) =
          [(v, 1)] := by
      rw [steps, row]
      cases below <;> rfl
    have some := List.length_pos_iff.mpr below.ne_nil
    rw [depthFrom_eq_foldl, down, List.foldl_cons, List.foldl_nil, deepen, exceeds,
      if_neg Bool.false_ne_true, ih, List.length_append, List.length_singleton]
    omega

end IsDotted

end CallSites.Tree.Value
