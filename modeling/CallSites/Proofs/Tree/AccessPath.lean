import CallSites.Proofs.Tree.Depth
import Mathlib.Order.Bounds.Basic

/-! # Depth is the length of the longest access path

An access path leads from a node to one below it. Each of its steps names a field that the table
lists for the kind of the node at hand, and leads to the node in that field or, with an index, to a
node in the list there. The first takes one element, the second two. The depth search returns no
more than a running maximum; it is the length of some access path, and none is longer. Which paths
there are depends on the rows of the table as sets, so depth grows with the table and does not see
the order of a row.
-/

namespace CallSites.Tree

/-- One step of an access path: a field, or a field with an index into its list. -/
inductive Access where
  | field (name : String)
  | item (name : String) (index : Nat)
deriving DecidableEq, Repr

namespace Access

/-- How many elements a step adds to a path. -/
def length : Access → Nat
  | field _ => 1
  | item .. => 2

/-- The number of elements of a path. -/
def total : List Access → Nat
  | [] => 0
  | access :: path => access.length + total path

private theorem total_cons (access : Access) (path : List Access) :
    total (access :: path) = access.length + total path := rfl

end Access

namespace Value

/-- The steps that a table allows at a value, which lead to nodes only. -/
inductive Accesses (keys : TraversalKeys) (v : Value) : Access → Value → Prop where
  | field {kind : Kind} {name : String} {child : Value} (isKind : v.kind? = some kind)
    (listed : name ∈ keys.row kind) (held : v.attr? name = some child)
    (isNode : child.isNode = true) : Accesses keys v (.field name) child
  | item {kind : Kind} {name : String} {tag index : Nat} {items : List Value} {child : Value}
    (isKind : v.kind? = some kind) (listed : name ∈ keys.row kind)
    (held : v.attr? name = some (list tag items)) (inside : items[index]? = some child)
    (isNode : child.isNode = true) : Accesses keys v (.item name index) child

/-- The access paths that start at a value, each with the node to which it leads. -/
inductive AccessPath (keys : TraversalKeys) : Value → List Access → Value → Prop where
  | here (v : Value) : AccessPath keys v [] v
  | step {v child last : Value} {access : Access} {path : List Access}
    (first : v.Accesses keys access child) (rest : AccessPath keys child path last) :
    AccessPath keys v (access :: path) last

/-! ### Steps -/

private theorem mem_attrSteps_iff {attr : Option Value} {child : Value} {length : Nat} :
    (child, length) ∈ attrSteps attr ↔ child.isNode = true ∧
      (attr = some child ∧ length = 1 ∨
        ∃ tag items, attr = some (list tag items) ∧ child ∈ items ∧ length = 2) := by
  rcases attr with _ | v
  · simp [attrSteps]
  · cases v with
    | plain tag value =>
      simp only [attrSteps, List.not_mem_nil, Option.some.injEq, false_iff, reduceCtorEq, false_and,
        exists_false, or_false, not_and]
      rintro isNode rfl
      cases isNode
    | list tag items =>
      simp only [attrSteps, List.mem_map, List.mem_filter, Prod.mk.injEq, Option.some.injEq,
        list.injEq]
      constructor
      · rintro ⟨item, ⟨inside, isNode⟩, rfl, rfl⟩
        exact ⟨isNode, .inr ⟨tag, items, ⟨rfl, rfl⟩, inside, rfl⟩⟩
      · rintro ⟨isNode, ⟨rfl, -⟩ | ⟨_, _, ⟨rfl, rfl⟩, inside, rfl⟩⟩
        · cases isNode
        · exact ⟨child, ⟨inside, isNode⟩, rfl, rfl⟩
    | node tag kind slots marks =>
      simp only [attrSteps, List.mem_singleton, Prod.mk.injEq, Option.some.injEq]
      constructor
      · rintro ⟨rfl, rfl⟩
        exact ⟨rfl, .inl ⟨rfl, rfl⟩⟩
      · rintro ⟨-, ⟨rfl, rfl⟩ | ⟨_, _, ⟨⟩, -⟩⟩
        exact ⟨rfl, rfl⟩

/-- The depth search takes the steps of access paths. -/
theorem mem_steps_iff {keys : TraversalKeys} {v child : Value} {length : Nat} :
    (child, length) ∈ v.steps keys ↔ ∃ access, v.Accesses keys access child ∧
      access.length = length := by
  constructor
  · intro step
    cases v with
    | node tag kind slots marks =>
      obtain ⟨name, listed, step⟩ := List.mem_flatMap.mp step
      obtain ⟨isNode, ⟨held, rfl⟩ | ⟨_, items, held, inside, rfl⟩⟩ := mem_attrSteps_iff.mp step
      · exact ⟨.field name, .field rfl listed held isNode, rfl⟩
      · obtain ⟨index, present⟩ := List.mem_iff_getElem?.mp inside
        exact ⟨.item name index, .item rfl listed held present isNode, rfl⟩
    | _ => simp [steps] at step
  · rintro ⟨access, first, rfl⟩
    cases v with
    | node tag kind slots marks =>
      cases first with
      | field isKind listed held isNode =>
        cases isKind
        have step := mem_attrSteps_iff.mpr ⟨isNode, .inl ⟨held, rfl⟩⟩
        exact List.mem_flatMap.mpr ⟨_, listed, step⟩
      | item isKind listed held inside isNode =>
        cases isKind
        have among := List.mem_of_getElem? inside
        have step := mem_attrSteps_iff.mpr ⟨isNode, .inr ⟨_, _, held, among, rfl⟩⟩
        exact List.mem_flatMap.mpr ⟨_, listed, step⟩
    | _ => cases first with | _ isKind => cases isKind

/-! ### The running maximum -/

private theorem deepen_none (keys : TraversalKeys) (current deepest : Nat) (step : Value × Nat) :
    deepen keys none current deepest step =
      max deepest (depthFrom keys none (current + step.2) step.1) := rfl

private theorem foldl_deepen_le_iff {keys : TraversalKeys} {current bound : Nat}
    (steps : List (Value × Nat)) (deepest : Nat) :
    steps.foldl (deepen keys none current) deepest ≤ bound ↔ deepest ≤ bound ∧
      ∀ step ∈ steps, depthFrom keys none (current + step.2) step.1 ≤ bound := by
  induction steps generalizing deepest with
  | nil => simp
  | cons step steps ih =>
    rw [List.foldl_cons, ih, deepen_none, Nat.max_le, and_assoc, List.forall_mem_cons]

private theorem foldl_deepen_cases {keys : TraversalKeys} {current : Nat}
    (steps : List (Value × Nat)) (deepest : Nat) :
    steps.foldl (deepen keys none current) deepest = deepest ∨ ∃ step ∈ steps,
      steps.foldl (deepen keys none current) deepest =
        depthFrom keys none (current + step.2) step.1 := by
  induction steps generalizing deepest with
  | nil => exact .inl rfl
  | cons step steps ih =>
    rw [List.foldl_cons, deepen_none]
    rcases ih (max deepest (depthFrom keys none (current + step.2) step.1)) with
      kept | ⟨other, among, found⟩
    · rw [kept]
      rcases Nat.le_total deepest (depthFrom keys none (current + step.2) step.1)
        with less | greater
      · exact .inr ⟨step, List.mem_cons_self .., Nat.max_eq_right less⟩
      · exact .inl (Nat.max_eq_left greater)
    · exact .inr ⟨other, List.mem_cons_of_mem _ among, found⟩

/-- Without a limit the search returns the least bound of where it starts and of what it returns for
the children. -/
theorem depthFrom_le_iff {keys : TraversalKeys} {current bound : Nat} {v : Value} :
    depthFrom keys none current v ≤ bound ↔ current ≤ bound ∧
      ∀ step ∈ v.steps keys, depthFrom keys none (current + step.2) step.1 ≤ bound := by
  rw [depthFrom_eq_foldl, foldl_deepen_le_iff]

private theorem le_depthFrom (keys : TraversalKeys) (current : Nat) (v : Value) :
    current ≤ depthFrom keys none current v :=
  (depthFrom_le_iff.mp (Nat.le_refl _)).1

private theorem depthFrom_child_le {keys : TraversalKeys} {v : Value} {step : Value × Nat}
    (among : step ∈ v.steps keys) (current : Nat) :
    depthFrom keys none (current + step.2) step.1 ≤ depthFrom keys none current v :=
  (depthFrom_le_iff.mp (Nat.le_refl _)).2 step among

/-! ### Paths and depths -/

/-- No access path from a node leads deeper than the search that starts there. -/
theorem AccessPath.add_total_le {keys : TraversalKeys} {v last : Value} {path : List Access}
    (leads : v.AccessPath keys path last) (current : Nat) :
    current + Access.total path ≤ depthFrom keys none current v := by
  induction leads generalizing current with
  | here v => exact le_depthFrom keys current v
  | @step v child last access path first rest ih =>
    have among : (child, access.length) ∈ v.steps keys := mem_steps_iff.mpr ⟨access, first, rfl⟩
    calc current + Access.total (access :: path)
        = current + access.length + Access.total path := by rw [Access.total_cons, Nat.add_assoc]
      _ ≤ depthFrom keys none (current + access.length) child := ih _
      _ ≤ depthFrom keys none current v := depthFrom_child_le among current

/-- The search goes along an access path to the depth that it returns. -/
theorem exists_accessPath (keys : TraversalKeys) (current : Nat) (v : Value) :
    ∃ path last, v.AccessPath keys path last ∧
      current + Access.total path = depthFrom keys none current v := by
  rw [depthFrom_eq_foldl]
  rcases foldl_deepen_cases (v.steps keys) current with stays | ⟨⟨child, length⟩, among, found⟩
  · exact ⟨[], v, .here v, stays.symm⟩
  · obtain ⟨access, first, rfl⟩ := mem_steps_iff.mp among
    have smaller := sizeOf_step_lt among
    obtain ⟨path, last, rest, reached⟩ := exists_accessPath keys (current + access.length) child
    refine ⟨access :: path, last, .step first rest, ?_⟩
    rw [Access.total_cons, ← Nat.add_assoc, reached, found]
termination_by sizeOf v

/-- A table with more fields allows all access paths of one with less. -/
theorem AccessPath.of_subset {keys wider : TraversalKeys}
    (included : ∀ kind, keys.row kind ⊆ wider.row kind) {v last : Value} {path : List Access}
    (leads : v.AccessPath keys path last) : v.AccessPath wider path last := by
  induction leads with
  | here v => exact .here v
  | step first _ ih =>
    refine .step ?_ ih
    cases first with
    | field isKind listed held isNode => exact .field isKind (included _ listed) held isNode
    | item isKind listed held inside isNode =>
      exact .item isKind (included _ listed) held inside isNode

theorem isGreatest_depth (keys : TraversalKeys) (v : Value) :
    IsGreatest {length | ∃ path last, v.AccessPath keys path last ∧ Access.total path = length}
      (v.depth keys none) := by
  constructor
  · obtain ⟨path, last, leads, reached⟩ := exists_accessPath keys 0 v
    exact ⟨path, last, leads, by rwa [Nat.zero_add] at reached⟩
  · rintro _ ⟨path, last, leads, rfl⟩
    have bound := leads.add_total_le 0
    rwa [Nat.zero_add] at bound

theorem depth_le_of_subset {keys wider : TraversalKeys}
    (included : ∀ kind, keys.row kind ⊆ wider.row kind) (v : Value) :
    v.depth keys none ≤ v.depth wider none := by
  obtain ⟨path, last, leads, reached⟩ := (isGreatest_depth keys v).1
  exact (isGreatest_depth wider v).2 ⟨path, last, leads.of_subset included, reached⟩

/-- The depth of a node is the length of some access path from it, and none is longer. It grows
with the fields that the table lists, and tables whose rows list the same fields, in any order and
any number of times, give the same depth. -/
theorem depth_longest_access (keys : TraversalKeys) (v : Value) :
    IsGreatest {length | ∃ path last, v.AccessPath keys path last ∧ Access.total path = length}
        (v.depth keys none) ∧
      (∀ wider : TraversalKeys, (∀ kind, keys.row kind ⊆ wider.row kind) →
        v.depth keys none ≤ v.depth wider none) ∧
      ∀ other : TraversalKeys,
        (∀ kind name, name ∈ keys.row kind ↔ name ∈ other.row kind) →
          v.depth other none = v.depth keys none := by
  refine ⟨isGreatest_depth keys v, ?_, ?_⟩
  · intro wider included
    exact depth_le_of_subset included v
  · intro other same
    apply Nat.le_antisymm
    · exact depth_le_of_subset (fun kind name listed => (same kind name).mpr listed) v
    · exact depth_le_of_subset (fun kind name listed => (same kind name).mp listed) v

/-- In `f(x).y` the longest access path leads to `x`: the value, then the first of its
arguments. -/
example :
    let name (tag : Nat) (id : String) : Value := .ofAttributes tag .name [("id", .str id)]
    let call : Value := .ofAttributes 1 .call [("func", name 2 "f"), ("args", .list 3 [name 4 "x"])]
    (Value.ofAttributes 0 .attributeRef [("value", call), ("attr", .str "y")]).depth
      .standard none = 3 := by decide +kernel

end Value

end CallSites.Tree
