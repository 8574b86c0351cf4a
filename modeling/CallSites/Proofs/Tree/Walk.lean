import CallSites.Tree.Walk
import Mathlib.Data.List.Perm.Basic

/-! # The walk is the recursive preorder

At every moment the stack holds the visits whose subtrees are still to be walked, topmost first, so
what remains of the walk is the preorders of these subtrees one after the other. Facts about a whole
walk follow by induction over children: what holds of a node if it holds of its children holds of
every value.

One object may occur at several places of a tree. `occurrences` labels every visit of the preorder
with the path that leads to it, so that the visits directly below one occurrence can be told apart:
they are its children, in order.
-/

namespace CallSites.Tree

private theorem filter_zipIdx_from {α : Type} {items : List α} {place : Nat} {item : α}
    (present : items[place]? = some item) (start : Nat) :
    (items.zipIdx start).filter (fun entry => entry.2 == start + place) =
      [(item, start + place)] := by
  induction items generalizing place start with
  | nil => simp at present
  | cons first rest ih =>
    rw [List.zipIdx_cons, List.filter_cons]
    cases place with
    | zero =>
      obtain rfl : first = item := by simpa using present
      rw [if_pos (by simp), Nat.add_zero]
      have later : (rest.zipIdx (start + 1)).filter (fun entry => entry.2 == start) = [] := by
        rw [List.filter_eq_nil_iff]
        intro entry member
        have bound := (List.mem_zipIdx member).1
        simp only [beq_iff_eq]
        omega
      rw [later]
    | succ place =>
      rw [List.getElem?_cons_succ] at present
      rw [if_neg (by simp), ← Nat.add_assoc, Nat.add_right_comm]
      exact ih present (start + 1)

/-- Numbering a list tells its items apart. -/
theorem filter_zipIdx {α : Type} {items : List α} {place : Nat} {item : α}
    (present : items[place]? = some item) :
    items.zipIdx.filter (fun entry => entry.2 == place) = [(item, place)] := by
  simpa only [Nat.zero_add] using filter_zipIdx_from present 0

theorem flatMap_ite {α β : Type} (items : List α) (keep : α → Bool) (f : α → List β) :
    (items.flatMap fun item => if keep item then f item else []) =
      (items.filter keep).flatMap f := by
  induction items with
  | nil => rfl
  | cons item items ih =>
    by_cases kept : keep item = true
    · simp [kept, ih]
    · simp [kept, ih]

namespace Value

theorem itemsPreorder_eq_flatMap (parent : Value) (items : List Value) :
    itemsPreorder parent items = (items.filter isNode).flatMap (preorder (some parent)) := by
  induction items with
  | nil => rfl
  | cons item rest ih =>
    cases item <;> simp [itemsPreorder, List.filter_cons, isNode, ih]

theorem slotsPreorder_eq_flatMap (parent : Value) (slots : List (Option Value)) :
    slotsPreorder parent slots = (slots.flatMap slotChildren).flatMap (preorder (some parent)) := by
  induction slots with
  | nil => rfl
  | cons slot rest ih =>
    rw [List.flatMap_cons, List.flatMap_append, ← ih]
    rcases slot with _ | v
    · simp [slotsPreorder, slotChildren]
    · cases v <;> simp [slotsPreorder, slotChildren, itemsPreorder_eq_flatMap]

/-- A node comes first, then its children with all that is below them, in order. -/
theorem preorder_eq_cons (parent : Option Value) (v : Value) :
    v.preorder parent = ⟨v, parent⟩ :: v.children.flatMap (preorder (some v)) := by
  cases v with
  | node tag kind slots marks => rw [preorder, children, slotsPreorder_eq_flatMap]
  | _ => rfl

private theorem nodeCount_le_totalCount {v : Value} {values : List Value} (member : v ∈ values) :
    v.nodeCount ≤ totalCount values := by
  induction values with
  | nil => simp at member
  | cons w rest ih =>
    rw [totalCount]
    rcases List.mem_cons.mp member with rfl | member
    · omega
    · have := ih member
      omega

theorem nodeCount_child_lt {v child : Value} (member : child ∈ v.children) :
    child.nodeCount < v.nodeCount :=
  Nat.lt_of_le_of_lt (nodeCount_le_totalCount member) (totalCount_children_lt v)

/-- Induction over children. -/
@[elab_as_elim] theorem children_induction {motive : Value → Prop}
    (step : ∀ v, (∀ child ∈ v.children, motive child) → motive v) (v : Value) : motive v := by
  apply step
  intro child member
  have := nodeCount_child_lt member
  exact children_induction step child
termination_by v.nodeCount

end Value

/-- What a stack of visits leads to is the preorder of each, from the top down. -/
theorem runStack_eq_flatMap (stack : List Visit) :
    runStack stack = stack.flatMap fun visit => visit.node.preorder visit.parent := by
  fun_induction runStack stack with
  | case1 => rfl
  | case2 visit stack ih =>
    rw [ih, List.flatMap_append, List.flatMap_cons, Value.preorder_eq_cons, List.flatMap_map,
      List.cons_append]

namespace Value

theorem walk_eq_preorder (tree : Value) : tree.walk = tree.preorder none := by
  rw [walk, runStack_eq_flatMap, List.flatMap_singleton]

/-- The nodes of a tree, one for each occurrence, in preorder. -/
def nodes (tree : Value) : List Value := (tree.preorder none).map Visit.node

private theorem map_node_preorder (parent : Option Value) (v : Value) :
    (v.preorder parent).map Visit.node = v.nodes := by
  rw [nodes, preorder_eq_cons, preorder_eq_cons none, List.map_cons, List.map_cons]

theorem nodes_eq_cons (v : Value) : v.nodes = v :: v.children.flatMap nodes := by
  rw [nodes, preorder_eq_cons, List.map_cons, List.map_flatMap]
  simp only [map_node_preorder]

/-- With a node its children are nodes of the tree. -/
theorem mem_nodes_of_child {tree v child : Value} (member : v ∈ tree.nodes)
    (below : child ∈ v.children) : child ∈ tree.nodes := by
  induction tree using children_induction with
  | step tree ih =>
    rw [nodes_eq_cons] at member ⊢
    rcases List.mem_cons.mp member with rfl | member
    · refine List.mem_cons_of_mem _ (List.mem_flatMap.mpr ⟨child, below, ?_⟩)
      rw [nodes_eq_cons]
      exact List.mem_cons_self ..
    · obtain ⟨first, inside, member⟩ := List.mem_flatMap.mp member
      exact List.mem_cons_of_mem _ (List.mem_flatMap.mpr ⟨first, inside, ih first inside member⟩)

theorem mem_slots_of_slot? {name : String} {names : List String} {slots : List (Option Value)}
    {v : Value} (found : slot? name names slots = some v) : some v ∈ slots := by
  induction names generalizing slots with
  | nil => simp [slot?] at found
  | cons field names ih =>
    cases slots with
    | nil => simp [slot?] at found
    | cons slot slots =>
      simp only [slot?] at found
      split at found
      · exact List.mem_cons.mpr (Or.inl found.symm)
      · exact List.mem_cons_of_mem _ (ih found)

/-- What a field of a node contributes to its children. -/
theorem mem_children_of_attr? {v holder child : Value} {kind : Kind} {name : String}
    (isKind : v.isKind kind = true) (isField : kind.fieldNamed name ∈ kind.fields)
    (held : v.attr? name = some holder) (member : child ∈ slotChildren (some holder)) :
    child ∈ v.children := by
  cases v with
  | node tag kind' slots marks =>
    obtain rfl : kind' = kind := by simpa [Value.isKind, kind?] using isKind
    simp only [attr?, if_pos isField] at held
    exact List.mem_flatMap.mpr ⟨some holder, mem_slots_of_slot? held, member⟩
  | _ => simp [Value.isKind, kind?] at isKind

/-- A visit below the child at a place, seen from its parent. -/
def under (place : Nat) (below : List Nat × Visit) : List Nat × Visit :=
  (place :: below.1, below.2)

/-- The visits of the preorder, each with the path to it: the places of the children through which
the path leads. -/
def occurrences (parent : Option Value) (v : Value) : List (List Nat × Visit) :=
  ([], ⟨v, parent⟩) :: v.children.attach.zipIdx.flatMap fun entry =>
    (occurrences (some v) entry.1.1).map (under entry.2)
termination_by v.nodeCount
decreasing_by exact nodeCount_child_lt entry.1.2

theorem occurrences_eq_cons (parent : Option Value) (v : Value) :
    v.occurrences parent = ([], ⟨v, parent⟩) :: v.children.zipIdx.flatMap fun entry =>
      (entry.1.occurrences (some v)).map (under entry.2) := by
  have plain : v.children.zipIdx =
      v.children.attach.zipIdx.map fun entry => (entry.1.1, entry.2) := by
    conv_lhs => rw [← List.attach_map_subtype_val v.children, List.zipIdx_map]
    rfl
  rw [occurrences, plain, List.flatMap_map]

/-- Without their paths the occurrences are the preorder. -/
theorem map_visit_occurrences (parent : Option Value) (v : Value) :
    (v.occurrences parent).map Prod.snd = v.preorder parent := by
  induction v using children_induction generalizing parent with
  | step v ih =>
    rw [occurrences_eq_cons, preorder_eq_cons, List.map_cons, List.map_flatMap]
    congr 1
    calc v.children.zipIdx.flatMap (fun entry =>
          ((entry.1.occurrences (some v)).map (under entry.2)).map Prod.snd)
        = v.children.zipIdx.flatMap fun entry => entry.1.preorder (some v) := by
          apply List.flatMap_congr
          intro entry member
          rw [List.map_map, ← ih entry.1 (List.fst_mem_of_mem_zipIdx member)]
          rfl
      _ = (v.children.zipIdx.map Prod.fst).flatMap (preorder (some v)) := by rw [List.flatMap_map]
      _ = v.children.flatMap (preorder (some v)) := by rw [List.zipIdx_map_fst]

/-- A visit is that of the root, or it lies below the child that its path begins with. -/
theorem eq_root_or_under {parent : Option Value} {v : Value} {path : List Nat} {visit : Visit}
    (member : (path, visit) ∈ v.occurrences parent) :
    path = [] ∧ visit = ⟨v, parent⟩ ∨ ∃ place child below, path = place :: below ∧
      v.children[place]? = some child ∧ (below, visit) ∈ child.occurrences (some v) := by
  rw [occurrences_eq_cons] at member
  rcases List.mem_cons.mp member with root | member
  · exact .inl (Prod.mk.inj root)
  · obtain ⟨⟨child, place⟩, numbered, inside⟩ := List.mem_flatMap.mp member
    obtain ⟨⟨below, visit'⟩, among, same⟩ := List.mem_map.mp inside
    cases same
    exact .inr ⟨place, child, below, rfl, List.mem_zipIdx_iff_getElem?.mp numbered, among⟩

/-- Whether a path leads directly below another: one step further. -/
def isBelow : List Nat → List Nat → Bool
  | [], [_] => true
  | place :: path, place' :: other => place == place' && isBelow path other
  | _, _ => false

private theorem isBelow_nil_under (place : Nat) (below : List Nat × Visit) :
    isBelow [] (under place below).1 = below.1.isEmpty := by
  obtain ⟨path, visit⟩ := below
  cases path <;> rfl

/-- Only the root has the empty path. -/
theorem filter_occurrences_root (parent : Option Value) (v : Value) :
    (v.occurrences parent).filter (fun entry => entry.1.isEmpty) = [([], ⟨v, parent⟩)] := by
  have deeper : (v.children.zipIdx.flatMap fun entry =>
      ((entry.1.occurrences (some v)).map (under entry.2)).filter fun entry => entry.1.isEmpty) =
        [] := by
    simp [List.filter_map, under]
  rw [occurrences_eq_cons, List.filter_cons_of_pos rfl, List.filter_flatMap, deeper]

/-- The visits directly below an occurrence are its children, in order. -/
theorem filter_occurrences_below {parent : Option Value} {v : Value} {path : List Nat}
    {visit : Visit} (member : (path, visit) ∈ v.occurrences parent) :
    (v.occurrences parent).filter (fun entry => isBelow path entry.1) =
      visit.node.children.zipIdx.map fun entry =>
        (path ++ [entry.2], ⟨entry.1, some visit.node⟩) := by
  induction v using children_induction generalizing parent path with
  | step v ih =>
    rcases eq_root_or_under member with ⟨rfl, rfl⟩ | ⟨place, child, path, rfl, present, below⟩
    · rw [occurrences_eq_cons, List.filter_cons_of_neg Bool.false_ne_true, List.filter_flatMap,
        List.map_eq_flatMap]
      -- Directly below the root stand the roots of the subtrees.
      apply List.flatMap_congr
      intro entry _
      rw [List.filter_map, Function.comp_def]
      simp only [isBelow_nil_under, filter_occurrences_root]
      rfl
    · rw [occurrences_eq_cons]
      -- Paths that start at another place lead elsewhere.
      have split : ∀ entry ∈ v.children.zipIdx,
          ((entry.1.occurrences (some v)).map (under entry.2)).filter
              (fun occurrence => isBelow (place :: path) occurrence.1) =
            if entry.2 == place then ((entry.1.occurrences (some v)).filter
              (fun occurrence => isBelow path occurrence.1)).map (under entry.2) else [] := by
        intro entry _
        rw [List.filter_map, Function.comp_def]
        simp only [under, isBelow]
        by_cases here : entry.2 = place
        · simp [here]
        · simp [here, Ne.symm here]
      rw [List.filter_cons_of_neg Bool.false_ne_true, List.filter_flatMap,
        List.flatMap_congr split, flatMap_ite, filter_zipIdx present, List.flatMap_singleton,
        ih child (List.mem_of_getElem? present) below, List.map_map]
      rfl

end Value

end CallSites.Tree
