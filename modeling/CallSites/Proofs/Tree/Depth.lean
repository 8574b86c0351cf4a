import CallSites.Proofs.Tree.Equality
import CallSites.Proofs.Tree.Walk
import CallSites.Tree.Depth
import Mathlib.Data.List.Forall2

/-! # Depth along equal trees and with a limit

The depth search is a fold over the steps of a node. Related trees that offer the same steps, child
by child, have the same depth with every limit. Structural equality is such a relation as soon as
no mark holds a node: marks are no part of equality, but a table may name them. It is not enough
that positions hold none, for a table may name any attribute. A search with a limit is compared with
one that has a greater limit or none: they differ only beyond the limit.
-/

namespace CallSites.Tree.Value

/-- Whether a value is a node or a list with a node in it, so that a table can lead into it. -/
def holdsNode : Value → Bool
  | plain .. => false
  | list _ items => items.any isNode
  | node .. => true

mutual

/-- Whether no mark within a value holds a node. Source positions are such marks. -/
def bareMarks : Value → Bool
  | plain .. => true
  | list _ items => bareItems items
  | node _ _ slots marks => marks.all (fun mark => !mark.2.holdsNode) && bareSlots slots

def bareItems : List Value → Bool
  | [] => true
  | v :: rest => bareMarks v && bareItems rest

def bareSlots : List (Option Value) → Bool
  | [] => true
  | none :: rest => bareSlots rest
  | some v :: rest => bareMarks v && bareSlots rest

end

/-- The attributes that say where a node stands. -/
def positionNames : List String := ["lineno", "col_offset", "end_lineno", "end_col_offset"]

/-- Whether no position within a value holds a node. Marks with other names may hold one. -/
def barePositions (v : Value) : Bool :=
  v.nodes.all fun part => positionNames.all fun name =>
    (part.attr? name).all fun held => !held.holdsNode

/-- The expression `m.f` with a column, and with an attribute that holds such an expression. -/
def sampleAttributed (name : String) : Value :=
  let expression (tag : Nat) (further : List (String × Value)) : Value :=
    ofAttributes tag .attributeRef
      ([("value", ofAttributes (tag + 1) .name [("id", str "m")]), ("attr", str "f")] ++ further)
  expression 0 [(name, expression 2 []), ("col_offset", int 0)]

theorem bareItems_iff {items : List Value} :
    bareItems items = true ↔ ∀ item ∈ items, item.bareMarks = true := by
  induction items with
  | nil => simp [bareItems]
  | cons item rest ih => simp [bareItems, ih]

theorem bareSlots_iff {slots : List (Option Value)} :
    bareSlots slots = true ↔ ∀ held, some held ∈ slots → held.bareMarks = true := by
  induction slots with
  | nil => simp [bareSlots]
  | cons slot rest ih => cases slot <;> simp [bareSlots, ih]

theorem holdsNode_lookup {name : String} {marks : List (String × Value)} {v : Value}
    (bare : marks.all (fun mark => !mark.2.holdsNode) = true)
    (found : marks.lookup name = some v) : v.holdsNode = false := by
  have member : (name, v) ∈ marks := by
    obtain ⟨before, after, rfl, -⟩ := List.lookup_eq_some_iff.mp found
    simp
  simpa using List.all_eq_true.mp bare (name, v) member

theorem attrSteps_eq_nil_iff {attr : Option Value} :
    attrSteps attr = [] ↔ ∀ v, attr = some v → v.holdsNode = false := by
  rcases attr with _ | v
  · simp [attrSteps]
  · cases v <;> simp [attrSteps, holdsNode]

/-- A table that names a mark finds no node there. -/
theorem attrSteps_lookup {marks : List (String × Value)}
    (bare : marks.all (fun mark => !mark.2.holdsNode) = true) (name : String) :
    attrSteps (marks.lookup name) = [] := by
  rw [attrSteps_eq_nil_iff]
  intro v found
  exact holdsNode_lookup bare found

/-- Steps from a tree with bare marks lead to trees with bare marks. -/
theorem bareMarks_of_step {keys : TraversalKeys} {v child : Value} {length : Nat}
    (bare : v.bareMarks = true) (step : (child, length) ∈ v.steps keys) :
    child.bareMarks = true := by
  cases v with
  | node tag kind slots marks =>
    simp only [bareMarks, Bool.and_eq_true] at bare
    simp only [steps, List.mem_flatMap, attr?] at step
    obtain ⟨name, -, member⟩ := step
    split at member
    · cases found : slot? (kind.fieldNamed name) kind.fields slots with
      | none => simp [found, attrSteps] at member
      | some w =>
        have bareSlot := bareSlots_iff.mp bare.2 w (mem_slots_of_slot? found)
        rw [found] at member
        cases w with
        | plain => simp [attrSteps] at member
        | list _ items =>
          simp only [attrSteps, List.mem_map, List.mem_filter, Prod.mk.injEq] at member
          obtain ⟨item, ⟨inside, -⟩, rfl, -⟩ := member
          simp only [bareMarks] at bareSlot
          exact bareItems_iff.mp bareSlot item inside
        | node =>
          simp only [attrSteps, List.mem_singleton, Prod.mk.injEq] at member
          rw [member.1]
          exact bareSlot
    · simp [attrSteps_lookup bare.1] at member
  | _ => simp [steps] at step

/-- Two steps of one length whose ends are equal trees. -/
def StepsAlike (left right : Value × Nat) : Prop :=
  left.1.equal right.1 = true ∧ left.2 = right.2

private theorem isNode_of_equal {v w : Value} (same : v.equal w = true) : v.isNode = w.isNode := by
  cases v <;> cases w <;> simp_all [equal, isNode]

private theorem equalItems_forall₂ {xs ys : List Value} (same : equalItems xs ys = true) :
    List.Forall₂ (fun x y => x.equal y = true) xs ys := by
  induction xs generalizing ys with
  | nil =>
    cases ys with
    | nil => exact .nil
    | cons y ys => simp [equalItems] at same
  | cons x xs ih =>
    cases ys with
    | nil => simp [equalItems] at same
    | cons y ys =>
      simp only [equalItems, Bool.and_eq_true] at same
      exact .cons same.1 (ih same.2)

/-- Attributes that read alike offer the same steps. -/
theorem attrSteps_alike {a b : Option Value} (same : (reading a).equal (reading b) = true) :
    List.Forall₂ StepsAlike (attrSteps a) (attrSteps b) := by
  -- Values of different sorts are never equal, so only the three matching pairs remain.
  rcases a with _ | a <;> rcases b with _ | b
  · exact .nil
  · rw [reading, reading, Option.getD_none, Option.getD_some, equal_null_left] at same
    cases b with
    | plain => exact .nil
    | _ => simp [isNull] at same
  · rw [reading, reading, Option.getD_none, Option.getD_some, equal_null_right] at same
    cases a with
    | plain => exact .nil
    | _ => simp [isNull] at same
  · simp only [reading, Option.getD_some] at same
    cases a with
    | plain =>
      cases b with
      | plain => exact .nil
      | _ => simp [equal] at same
    | list _ xs =>
      cases b with
      | list _ ys =>
        simp only [equal] at same
        simp only [attrSteps, List.forall₂_map_left_iff, List.forall₂_map_right_iff]
        have nodes := List.rel_filter (p := isNode) (q := isNode)
          (fun x y equal => iff_of_eq (congrArg (· = true) (isNode_of_equal equal)))
          (equalItems_forall₂ same)
        exact nodes.imp fun _ _ equal => ⟨equal, rfl⟩
      | _ => simp [equal] at same
    | node =>
      cases b with
      | node => exact .cons ⟨same, rfl⟩ .nil
      | _ => simp [equal] at same

/-- Equal trees with bare marks offer the same steps under every table. -/
theorem steps_alike {v w : Value} (same : v.equal w = true) (bareLeft : v.bareMarks = true)
    (bareRight : w.bareMarks = true) (keys : TraversalKeys) :
    List.Forall₂ StepsAlike (v.steps keys) (w.steps keys) := by
  cases v with
  | node tag kind slots marks =>
    cases w with
    | node tag' kind' slots' marks' =>
      simp only [equal, Bool.and_eq_true, beq_iff_eq] at same
      simp only [bareMarks, Bool.and_eq_true] at bareLeft bareRight
      obtain ⟨rfl, sameSlots⟩ := same
      apply List.rel_flatMap (R := Eq) (List.forall₂_refl _)
      rintro name _ rfl
      simp only [attr?]
      split
      · exact attrSteps_alike (equal_slot? sameSlots _ _)
      · rw [attrSteps_lookup bareLeft.1, attrSteps_lookup bareRight.1]
        exact .nil
    | _ => simp [equal] at same
  | plain =>
    cases w with
    | node => simp [equal] at same
    | _ => exact .nil
  | list =>
    cases w with
    | node => simp [equal] at same
    | _ => exact .nil

/-- One turn of the depth search: the child at the end of a step is searched unless the search has
already gone beyond the limit. -/
def deepen (keys : TraversalKeys) (limit : Option Int) (current deepest : Nat)
    (step : Value × Nat) : Nat :=
  if exceeds limit deepest then deepest
  else max deepest (depthFrom keys limit (current + step.2) step.1)

theorem depthFrom_eq_foldl (keys : TraversalKeys) (limit : Option Int) (current : Nat) (v : Value) :
    depthFrom keys limit current v = (v.steps keys).foldl (deepen keys limit current) current := by
  rw [depthFrom]
  exact List.foldl_attach (f := deepen keys limit current)

private theorem foldl_deepen_congr {keys : TraversalKeys} {limit : Option Int} {current : Nat}
    {xs ys : List (Value × Nat)}
    (agree : List.Forall₂ (fun a b => a.2 = b.2 ∧ ∀ start,
      depthFrom keys limit start a.1 = depthFrom keys limit start b.1) xs ys) (deepest : Nat) :
    xs.foldl (deepen keys limit current) deepest =
      ys.foldl (deepen keys limit current) deepest := by
  induction agree generalizing deepest with
  | nil => rfl
  | @cons a b xs ys head _ ih =>
    have turn : deepen keys limit current deepest a = deepen keys limit current deepest b := by
      rw [deepen, deepen, head.1, head.2]
    rw [List.foldl_cons, List.foldl_cons, turn, ih]

/-- Trees related by a relation that follows steps, child by child, are equally deep. -/
theorem depthFrom_eq_of_related {keys : TraversalKeys} (related : Value → Value → Prop)
    (follows : ∀ v w, related v w →
      List.Forall₂ (fun a b => related a.1 b.1 ∧ a.2 = b.2) (v.steps keys) (w.steps keys))
    (limit : Option Int) (current : Nat) (v w : Value) (start : related v w) :
    depthFrom keys limit current v = depthFrom keys limit current w := by
  rw [depthFrom_eq_foldl, depthFrom_eq_foldl]
  apply foldl_deepen_congr
  have children := (List.forall₂_and_left _ _).mpr
    ⟨fun _ member => sizeOf_step_lt (v := v) member, follows v w start⟩
  refine children.imp ?_
  rintro a b ⟨smaller, both, length⟩
  refine ⟨length, ?_⟩
  intro below
  exact depthFrom_eq_of_related related follows limit below a.1 b.1 both
termination_by sizeOf v

/-- Equal trees with bare marks are equally deep under every table and with every limit. -/
theorem depth_eq_of_equal {v w : Value} (same : v.equal w = true) (bareLeft : v.bareMarks = true)
    (bareRight : w.bareMarks = true) (keys : TraversalKeys) (limit : Option Int) :
    v.depth keys limit = w.depth keys limit := by
  refine depthFrom_eq_of_related
    (fun v w => v.equal w = true ∧ v.bareMarks = true ∧ w.bareMarks = true) ?_ limit 0 v w
    ⟨same, bareLeft, bareRight⟩
  rintro v w ⟨same, bareLeft, bareRight⟩
  have alike := steps_alike same bareLeft bareRight keys
  have leftChildren : ∀ step ∈ v.steps keys, step.1.bareMarks = true :=
    fun _ member => bareMarks_of_step bareLeft member
  have rightChildren : ∀ step ∈ w.steps keys, step.1.bareMarks = true :=
    fun _ member => bareMarks_of_step bareRight member
  have left := (List.forall₂_and_left _ _).mpr ⟨leftChildren, alike⟩
  have right := (List.forall₂_and_left _ _).mpr ⟨rightChildren, left.flip⟩
  exact right.flip.imp fun _ _ ⟨bareB, bareA, equal, length⟩ => ⟨⟨equal, bareA, bareB⟩, length⟩

private theorem le_deepen (keys : TraversalKeys) (limit : Option Int) (current deepest : Nat)
    (step : Value × Nat) : deepest ≤ deepen keys limit current deepest step := by
  unfold deepen
  split
  · exact Nat.le_refl _
  · exact Nat.le_max_left ..

/-- Whether a search with a limit of its own stops no earlier than one with the given limit. -/
def Reaches (limit : Int) (wider : Option Int) : Prop := ∀ bound ∈ wider, limit ≤ bound

private theorem exceeds_of_reaches {limit : Int} {wider : Option Int}
    (reaches : Reaches limit wider) {deepest : Nat} (within : (deepest : Int) ≤ limit) :
    exceeds (some limit) deepest = false ∧ exceeds wider deepest = false := by
  cases wider with
  | none => simpa [exceeds] using within
  | some bound =>
    have further : limit ≤ bound := reaches bound rfl
    simp only [exceeds, decide_eq_false_iff_not]
    omega

/-- What a search finds that stops beyond the limit, beside what one finds that stops later or
not at all: it is no deeper, and only what lies beyond the limit may differ. -/
structure Cut (limit : Int) (early late : Nat) : Prop where
  le : early ≤ late
  eq : (early : Int) ≤ limit → early = late

theorem Cut.deepen {keys : TraversalKeys} {limit : Int} {wider : Option Int}
    (reaches : Reaches limit wider) {current early late : Nat} {step : Value × Nat}
    (so_far : Cut limit early late)
    (child : Cut limit (depthFrom keys (some limit) (current + step.2) step.1)
      (depthFrom keys wider (current + step.2) step.1)) :
    Cut limit (deepen keys (some limit) current early step)
      (deepen keys wider current late step) := by
  by_cases within : (early : Int) ≤ limit
  · -- Neither search has stopped, and both have seen the same so far.
    obtain rfl := so_far.eq within
    obtain ⟨inside, insideWider⟩ := exceeds_of_reaches reaches within
    rw [Value.deepen, Value.deepen, inside, insideWider]
    have le := child.le
    have eq := child.eq
    refine ⟨?_, ?_⟩
    · simp only [Bool.false_eq_true, if_false]
      omega
    · simp only [Bool.false_eq_true, if_false]
      omega
  · have stopped : Value.deepen keys (some limit) current early step = early := by
      rw [Value.deepen, if_pos]
      simpa [exceeds] using within
    rw [stopped]
    refine ⟨?_, fun inside => absurd inside within⟩
    exact Nat.le_trans so_far.le (le_deepen keys wider current late step)

theorem Cut.foldl {keys : TraversalKeys} {limit : Int} {wider : Option Int}
    (reaches : Reaches limit wider) {current : Nat} {steps : List (Value × Nat)}
    (children : ∀ step ∈ steps, Cut limit (depthFrom keys (some limit) (current + step.2) step.1)
      (depthFrom keys wider (current + step.2) step.1)) {early late : Nat}
    (so_far : Cut limit early late) :
    Cut limit (steps.foldl (Value.deepen keys (some limit) current) early)
      (steps.foldl (Value.deepen keys wider current) late) := by
  induction steps generalizing early late with
  | nil => exact so_far
  | cons step steps ih =>
    rw [List.foldl_cons, List.foldl_cons]
    have turn := so_far.deepen reaches (children step (List.mem_cons_self ..))
    exact ih (fun other member => children other (List.mem_cons_of_mem _ member)) turn

/-- A search with a limit is cut short by that limit alone, wherever it starts. -/
theorem cut_depthFrom {limit : Int} {wider : Option Int} (reaches : Reaches limit wider)
    (keys : TraversalKeys) (current : Nat) (v : Value) :
    Cut limit (depthFrom keys (some limit) current v) (depthFrom keys wider current v) := by
  rw [depthFrom_eq_foldl, depthFrom_eq_foldl]
  refine Cut.foldl reaches ?_ ⟨Nat.le_refl _, fun _ => rfl⟩
  intro step member
  have smaller := sizeOf_step_lt (v := v) member
  exact cut_depthFrom reaches keys (current + step.2) step.1
termination_by sizeOf v

private theorem cut_depth (keys : TraversalKeys) (limit : Int) (v : Value) :
    Cut limit (v.depth keys (some limit)) (v.depth keys none) := by
  have reaches : Reaches limit none := by rintro _ ⟨⟩
  exact cut_depthFrom reaches keys 0 v

/-- A limit that is not exceeded does not change what the search finds. -/
theorem depth_limit_of_le {keys : TraversalKeys} {limit : Int} {v : Value}
    (within : (v.depth keys none : Int) ≤ limit) :
    v.depth keys (some limit) = v.depth keys none := by
  have cut := cut_depth keys limit v
  have le := cut.le
  exact cut.eq (by omega)

/-- The bounded search confirms the depth that the unbounded one finds. -/
theorem hasDepth_depth (keys : TraversalKeys) (v : Value) :
    v.hasDepth keys (v.depth keys none) = true := by
  simp only [hasDepth, beq_iff_eq, Int.natCast_inj]
  exact depth_limit_of_le (Int.le_refl _)

/-- The search with a limit agrees with the full one up to the limit. Beyond the limit it finds some
depth that lies beyond it too and is no greater than the full one; the greater the limit, the deeper
it gets. So it tells whether a tree has a given depth, whichever whole number is asked for. -/
theorem depth_with_limit (keys : TraversalKeys) (limit : Int) (v : Value) :
    ((v.depth keys none : Int) ≤ limit → v.depth keys (some limit) = v.depth keys none) ∧
      (limit < v.depth keys none →
        limit < v.depth keys (some limit) ∧ v.depth keys (some limit) ≤ v.depth keys none) ∧
      (∀ further, limit ≤ further → v.depth keys (some limit) ≤ v.depth keys (some further)) ∧
      (v.hasDepth keys limit = true ↔ (v.depth keys none : Int) = limit) := by
  have cut := cut_depth keys limit v
  have le := cut.le
  have eq := cut.eq
  refine ⟨depth_limit_of_le, ?_, ?_, ?_⟩
  · intro beyond
    exact ⟨by omega, le⟩
  · intro further wider
    have reaches : Reaches limit (some further) := by
      rintro _ ⟨⟩
      exact wider
    exact (cut_depthFrom reaches keys 0 v).le
  · rw [hasDepth, beq_iff_eq]
    omega

end CallSites.Tree.Value
