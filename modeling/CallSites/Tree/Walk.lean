import CallSites.Tree.Value

/-! # Walking a tree

`walk` visits every node of a tree together with its parent, driven by a stack of pending visits;
`preorder` is the same order by recursion. Children are the nodes in a node's slots and the nodes
in its list slots, in field order; a list inside a list is not entered.
-/

namespace CallSites.Tree

/-- A node met on a walk, with the node that directly holds it. -/
structure Visit where
  node : Value
  parent : Option Value
deriving Inhabited

namespace Value

/-- The child nodes that one slot contributes. -/
def slotChildren : Option Value → List Value
  | some (list _ items) => items.filter isNode
  | some (node tag kind slots marks) => [node tag kind slots marks]
  | _ => []

/-- The child nodes of a node in field order. -/
def children : Value → List Value
  | node _ _ slots _ => slots.flatMap slotChildren
  | _ => []

mutual

/-- How many visits the walk of a value takes. -/
def nodeCount : Value → Nat
  | node _ _ slots _ => 1 + slotsNodeCount slots
  | _ => 1

def itemsNodeCount : List Value → Nat
  | [] => 0
  | node tag kind slots marks :: rest =>
    nodeCount (node tag kind slots marks) + itemsNodeCount rest
  | _ :: rest => itemsNodeCount rest

def slotsNodeCount : List (Option Value) → Nat
  | [] => 0
  | some (node tag kind slots marks) :: rest =>
    nodeCount (node tag kind slots marks) + slotsNodeCount rest
  | some (list _ items) :: rest => itemsNodeCount items + slotsNodeCount rest
  | _ :: rest => slotsNodeCount rest

end

/-- How many visits the walks of some values take together. -/
def totalCount : List Value → Nat
  | [] => 0
  | v :: rest => nodeCount v + totalCount rest

theorem totalCount_append (left right : List Value) :
    totalCount (left ++ right) = totalCount left + totalCount right := by
  induction left with
  | nil => simp [totalCount]
  | cons v rest ih =>
    simp only [List.cons_append, totalCount, ih]
    omega

theorem totalCount_filter (items : List Value) :
    totalCount (items.filter isNode) = itemsNodeCount items := by
  induction items with
  | nil => simp [totalCount, itemsNodeCount]
  | cons v rest ih => cases v <;> simp [totalCount, itemsNodeCount, List.filter_cons, isNode, ih]

theorem totalCount_slots (slots : List (Option Value)) :
    totalCount (slots.flatMap slotChildren) = slotsNodeCount slots := by
  induction slots with
  | nil => simp [totalCount, slotsNodeCount]
  | cons slot rest ih =>
    simp only [List.flatMap_cons, totalCount_append, ih]
    rcases slot with _ | v
    · simp [slotsNodeCount, slotChildren, totalCount]
    · cases v <;> simp [slotsNodeCount, slotChildren, totalCount, totalCount_filter]

/-- The visits of a node are its own and those of its children. -/
theorem totalCount_children_lt (v : Value) : totalCount v.children < v.nodeCount := by
  cases v <;> simp [children, nodeCount, totalCount, totalCount_slots]

end Value

/-- The visits that are still to be made for a stack of pending ones. -/
def pendingCount (stack : List Visit) : Nat := Value.totalCount (stack.map Visit.node)

/-- Runs a stack of pending visits, top first: the top is visited and replaced by its children. -/
def runStack : List Visit → List Visit
  | [] => []
  | visit :: stack =>
    visit :: runStack (visit.node.children.map (fun child => ⟨child, some visit.node⟩) ++ stack)
termination_by stack => pendingCount stack
decreasing_by
  have fewer := Value.totalCount_children_lt visit.node
  have same : Visit.node ∘ (fun child => (⟨child, some visit.node⟩ : Visit)) = id := rfl
  simp only [pendingCount, List.map_append, List.map_map, same, List.map_id, List.map_cons,
    Value.totalCount_append, Value.totalCount]
  omega

namespace Value

/-- All visits of a tree, the root first. -/
def walk (tree : Value) : List Visit := runStack [⟨tree, none⟩]

mutual

/-- The recursive preorder: a node with its parent, then the preorders of its children. -/
def preorder (parent : Option Value) : Value → List Visit
  | node tag kind slots marks =>
    let self := node tag kind slots marks
    ⟨self, parent⟩ :: slotsPreorder self slots
  | v => [⟨v, parent⟩]

def itemsPreorder (parent : Value) : List Value → List Visit
  | [] => []
  | node tag kind slots marks :: rest =>
    preorder (some parent) (node tag kind slots marks) ++ itemsPreorder parent rest
  | _ :: rest => itemsPreorder parent rest

def slotsPreorder (parent : Value) : List (Option Value) → List Visit
  | [] => []
  | some (node tag kind slots marks) :: rest =>
    preorder (some parent) (node tag kind slots marks) ++ slotsPreorder parent rest
  | some (list _ items) :: rest => itemsPreorder parent items ++ slotsPreorder parent rest
  | _ :: rest => slotsPreorder parent rest

end

end Value

end CallSites.Tree
