import CallSites.Tree.TraversalKeys
import CallSites.Tree.Value

/-! # Structural depth

The depth of a node is the length of the longest path below it along a traversal table. A node
held directly by a field is one step away, a node in a list field two: the field and the index.
With a limit the search stops as soon as it has gone deeper than the limit.
-/

namespace CallSites.Tree.Value

/-- The steps that one attribute offers: a node directly, or the nodes of a list. -/
def attrSteps : Option Value → List (Value × Nat)
  | some (list _ items) => (items.filter isNode).map (·, 2)
  | some (node tag kind slots marks) => [(node tag kind slots marks, 1)]
  | _ => []

/-- The children of a node under a traversal table, each with the length of the step to it. -/
def steps (keys : TraversalKeys) : Value → List (Value × Nat)
  | node tag kind slots marks =>
    (keys.row kind).flatMap fun field => attrSteps ((node tag kind slots marks).attr? field)
  | _ => []

theorem sizeOf_slot?_lt {name : String} {names : List String} {slots : List (Option Value)}
    {v : Value} (found : slot? name names slots = some v) : sizeOf v < sizeOf slots := by
  induction names generalizing slots with
  | nil => simp [slot?] at found
  | cons field names ih =>
    cases slots with
    | nil => simp [slot?] at found
    | cons slot slots =>
      simp only [slot?] at found
      split at found
      · subst found
        simp only [List.cons.sizeOf_spec, Option.some.sizeOf_spec]
        omega
      · have := ih found
        simp only [List.cons.sizeOf_spec]
        omega

theorem sizeOf_lookup_lt {name : String} {marks : List (String × Value)} {v : Value}
    (found : marks.lookup name = some v) : sizeOf v < sizeOf marks := by
  induction marks with
  | nil => simp at found
  | cons mark marks ih =>
    obtain ⟨key, w⟩ := mark
    simp only [List.lookup_cons] at found
    split at found
    · cases found
      simp only [List.cons.sizeOf_spec, Prod.mk.sizeOf_spec]
      omega
    · have := ih found
      simp only [List.cons.sizeOf_spec]
      omega

/-- An attribute is smaller than its node. -/
theorem sizeOf_attr?_lt {v w : Value} {name : String} (found : v.attr? name = some w) :
    sizeOf w < sizeOf v := by
  cases v with
  | node tag kind slots marks =>
    simp only [attr?] at found
    split at found
    · have := sizeOf_slot?_lt found
      simp only [node.sizeOf_spec]
      omega
    · have := sizeOf_lookup_lt found
      simp only [node.sizeOf_spec]
      omega
  | _ => simp [attr?] at found

/-- A step leads to a smaller value. -/
theorem sizeOf_step_lt {keys : TraversalKeys} {v child : Value} {length : Nat}
    (step : (child, length) ∈ v.steps keys) : sizeOf child < sizeOf v := by
  cases v with
  | node tag kind slots marks =>
    simp only [steps, List.mem_flatMap] at step
    obtain ⟨field, -, member⟩ := step
    cases found : (node tag kind slots marks).attr? field with
    | none => simp [attrSteps, found] at member
    | some w =>
      have smaller := sizeOf_attr?_lt found
      rw [found] at member
      cases w with
      | list _ items =>
        simp only [attrSteps, List.mem_map, List.mem_filter, Prod.mk.injEq] at member
        obtain ⟨item, ⟨inside, -⟩, rfl, -⟩ := member
        have := List.sizeOf_lt_of_mem inside
        simp only [list.sizeOf_spec] at smaller
        omega
      | node tag' kind' slots' marks' =>
        simp only [attrSteps, List.mem_singleton, Prod.mk.injEq] at member
        rw [member.1]
        exact smaller
      | _ => simp [attrSteps] at member
  | _ => simp [steps] at step

/-- Whether a depth lies beyond the limit. -/
def exceeds (limit : Option Int) (depth : Nat) : Bool :=
  match limit with
  | some bound => decide (bound < depth)
  | none => false

/-- The deepest point seen below a node that itself lies at depth `current`. Before each child the
search stops if it has already gone beyond the limit. -/
def depthFrom (keys : TraversalKeys) (limit : Option Int) (current : Nat) (v : Value) : Nat :=
  (v.steps keys).attach.foldl
    (fun deepest step =>
      if exceeds limit deepest then deepest
      else max deepest (depthFrom keys limit (current + step.1.2) step.1.1))
    current
termination_by sizeOf v
decreasing_by exact sizeOf_step_lt step.2

/-- The structural depth of a node; beyond the limit, some depth above the limit. -/
def depth (keys : TraversalKeys) (limit : Option Int) (v : Value) : Nat :=
  depthFrom keys limit 0 v

/-- Whether a node has exactly the given depth, found out without going deeper than that. -/
def hasDepth (keys : TraversalKeys) (wanted : Int) (v : Value) : Bool :=
  (v.depth keys (some wanted) : Int) == wanted

end CallSites.Tree.Value
