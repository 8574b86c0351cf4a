import CallSites.Proofs.Tree.Fields

/-! # Occurrences on a walk

A walk goes round by round: the visit on top of the stack is made, and its children take its place.
One round leaves what the stack leads to as it was, less the visit that was made, and lowers the
count of visits that are still to come by one. Both hold of whole runs by induction.

One object may lie at several places of a tree. A place is a path of child numbers from the root,
so `Occurs` says of a visit where it is made, without any order. The walk meets each place once, the
lesser path first, and the places below one node follow each other without a gap.
-/

namespace CallSites.Tree

/-- The numbers that a list gives to its items rise. -/
theorem pairwise_zipIdx {α : Type} (items : List α) :
    items.zipIdx.Pairwise fun earlier later => earlier.2 < later.2 := by
  apply List.pairwise_map.mp
  rw [List.zipIdx_map_snd]
  exact List.pairwise_lt_range'

/-- An item parts the numbered list into items with other numbers. -/
theorem exists_parts_zipIdx {α : Type} {items : List α} {place : Nat} {item : α}
    (present : items[place]? = some item) :
    ∃ front back, items.zipIdx = front ++ (item, place) :: back ∧
      ∀ entry ∈ front ++ back, entry.2 ≠ place := by
  have numbered : (item, place) ∈ items.zipIdx := List.mem_zipIdx_iff_getElem?.mpr present
  obtain ⟨front, back, parts⟩ := List.append_of_mem numbered
  have rising := pairwise_zipIdx items
  rw [parts, List.pairwise_append, List.pairwise_cons] at rising
  obtain ⟨-, ⟨later, -⟩, earlier⟩ := rising
  refine ⟨front, back, parts, ?_⟩
  intro entry member
  rcases List.mem_append.mp member with member | member
  · exact Nat.ne_of_lt (earlier entry member _ (List.mem_cons_self ..))
  · exact Nat.ne_of_gt (later entry member)

/-- The visits that a visit leads to next: its children, with its node as their parent. -/
def Visit.below (visit : Visit) : List Visit :=
  visit.node.children.map fun child => ⟨child, some visit.node⟩

/-- What a stack of visits leads to: the preorder of each, from the top down. -/
def stackPreorder (stack : List Visit) : List Visit :=
  stack.flatMap fun visit => visit.node.preorder visit.parent

/-- Rounds of the walk: from `stack` the visits `visited` are made, in this order, and the stack is
then `rest`. -/
inductive Runs : List Visit → List Visit → List Visit → Prop where
  | stop (stack : List Visit) : Runs stack [] stack
  | round {visit : Visit} {stack visited rest : List Visit}
      (later : Runs (visit.below ++ stack) visited rest) :
      Runs (visit :: stack) (visit :: visited) rest

/-- A round makes the first visit that the stack leads to. -/
theorem stackPreorder_round (visit : Visit) (stack : List Visit) :
    stackPreorder (visit :: stack) = visit :: stackPreorder (visit.below ++ stack) := by
  rw [stackPreorder, stackPreorder, List.flatMap_append, List.flatMap_cons,
    Value.preorder_eq_cons, List.cons_append, Visit.below, List.flatMap_map]

private theorem Value.nodeCount_eq (v : Value) : v.nodeCount = Value.totalCount v.children + 1 := by
  cases v with
  | node tag kind slots marks => rw [nodeCount, children, totalCount_slots, Nat.add_comm]
  | _ => rfl

/-- A round leaves one visit fewer to be made. -/
theorem pendingCount_round (visit : Visit) (stack : List Visit) :
    pendingCount (visit :: stack) = pendingCount (visit.below ++ stack) + 1 := by
  have same : Visit.node ∘ (fun child => (⟨child, some visit.node⟩ : Visit)) = id := rfl
  simp only [pendingCount, Visit.below, List.map_append, List.map_map, same, List.map_id,
    List.map_cons, Value.totalCount_append, Value.totalCount, Value.nodeCount_eq visit.node]
  omega

/-- What is visited and what the stack still leads to make up what the stack led to at first. -/
theorem Runs.append_stackPreorder {stack visited rest : List Visit}
    (runs : Runs stack visited rest) : visited ++ stackPreorder rest = stackPreorder stack := by
  induction runs with
  | stop stack => rfl
  | round later ih => rw [List.cons_append, ih, stackPreorder_round]

/-- The visits that are made and those still to be made are equally many at every moment. -/
theorem Runs.length_add_pendingCount {stack visited rest : List Visit}
    (runs : Runs stack visited rest) :
    visited.length + pendingCount rest = pendingCount stack := by
  induction runs with
  | stop stack => rw [List.length_nil, Nat.zero_add]
  | round later ih =>
    rw [pendingCount_round, ← ih, List.length_cons]
    omega

/-- A stack can be run until it is empty. -/
theorem runs_runStack (stack : List Visit) : Runs stack (runStack stack) [] := by
  fun_induction runStack stack with
  | case1 => exact .stop []
  | case2 visit stack ih => exact .round ih

/-- The places of a tree that lies below `parent`: a visit is made at the root, and with a visit at
some path one at each child of its node, a number further down. -/
inductive Occurs (parent : Option Value) (tree : Value) : List Nat → Visit → Prop where
  | root : Occurs parent tree [] ⟨tree, parent⟩
  | child {path : List Nat} {visit : Visit} {place : Nat} {child : Value}
      (above : Occurs parent tree path visit) (held : visit.node.children[place]? = some child) :
      Occurs parent tree (path ++ [place]) ⟨child, some visit.node⟩

/-- A place of a child's tree is one of the whole tree. -/
theorem Occurs.under {parent : Option Value} {v child : Value} {place : Nat} {path : List Nat}
    {visit : Visit} (held : v.children[place]? = some child)
    (occurs : Occurs (some v) child path visit) : Occurs parent v (place :: path) visit := by
  induction occurs with
  | root =>
    change Occurs parent v ([] ++ [place]) ⟨child, some v⟩
    exact .child .root held
  | child above heldBelow ih => exact .child ih heldBelow

/-- Every visit but the root's is made at a child of a node that is visited too. -/
theorem Occurs.eq_root_or_child {parent : Option Value} {tree : Value} {path : List Nat}
    {visit : Visit} (occurs : Occurs parent tree path visit) :
    path = [] ∧ visit = ⟨tree, parent⟩ ∨
      ∃ above upper place, path = above ++ [place] ∧ Occurs parent tree above upper ∧
        visit.parent = some upper.node ∧ upper.node.children[place]? = some visit.node := by
  cases occurs with
  | root => exact .inl ⟨rfl, rfl⟩
  | @child above upper place child occurs held =>
    exact .inr ⟨above, upper, place, rfl, occurs, rfl, held⟩

namespace Value

private theorem occurs_of_mem {parent : Option Value} {v : Value} {path : List Nat} {visit : Visit}
    (member : (path, visit) ∈ v.occurrences parent) : Occurs parent v path visit := by
  induction v using children_induction generalizing parent path with
  | step v ih =>
    rcases eq_root_or_under member with ⟨rfl, rfl⟩ | ⟨place, child, path, rfl, held, below⟩
    · exact .root
    · exact (ih child (List.mem_of_getElem? held) below).under held

theorem mem_occurrences {parent : Option Value} {v : Value} {path : List Nat} {visit : Visit}
    (occurs : Occurs parent v path visit) : (path, visit) ∈ v.occurrences parent := by
  induction occurs with
  | root =>
    rw [occurrences_eq_cons]
    exact List.mem_cons_self ..
  | @child path visit place child above held ih =>
    have below : (path ++ [place], ⟨child, some visit.node⟩) ∈
        (v.occurrences parent).filter fun entry => isBelow path entry.1 := by
      rw [filter_occurrences_below ih]
      exact List.mem_map.mpr ⟨(child, place), List.mem_zipIdx_iff_getElem?.mpr held, rfl⟩
    exact (List.mem_filter.mp below).1

/-- The walk makes a visit at every place, and no other. -/
theorem mem_occurrences_iff {parent : Option Value} {v : Value} {path : List Nat}
    {visit : Visit} : (path, visit) ∈ v.occurrences parent ↔ Occurs parent v path visit :=
  ⟨occurs_of_mem, mem_occurrences⟩

/-- A later visit is made at a greater path, so no place is met twice. -/
theorem pairwise_occurrences (parent : Option Value) (v : Value) :
    (v.occurrences parent).Pairwise fun earlier later => earlier.1 < later.1 := by
  induction v using children_induction generalizing parent with
  | step v ih =>
    rw [occurrences_eq_cons, List.pairwise_cons, List.pairwise_flatMap]
    refine ⟨?_, ?_, ?_⟩
    · intro entry member
      obtain ⟨_, _, inside⟩ := List.mem_flatMap.mp member
      obtain ⟨_, _, rfl⟩ := List.mem_map.mp inside
      exact List.nil_lt_cons ..
    · intro entry member
      refine List.pairwise_map.mpr ((ih entry.1 (List.fst_mem_of_mem_zipIdx member) _).imp ?_)
      intro earlier later less
      exact List.cons_lt_cons_self.mpr less
    · -- Different subtrees differ in the first number of their paths.
      refine (pairwise_zipIdx v.children).imp ?_
      intro first second less earlier member later member'
      obtain ⟨_, _, rfl⟩ := List.mem_map.mp member
      obtain ⟨_, _, rfl⟩ := List.mem_map.mp member'
      exact List.cons_lt_cons_iff.mpr (.inl less)

/-- The places of a child's tree follow each other, and their paths alone start with its number. -/
theorem exists_child_block (parent : Option Value) {v child : Value} {place : Nat}
    (held : v.children[place]? = some child) :
    ∃ before after, v.occurrences parent =
        before ++ (child.occurrences (some v)).map (under place) ++ after ∧
      ∀ entry ∈ before ++ after, entry.1.head? ≠ some place := by
  obtain ⟨front, back, parts, elsewhere⟩ := exists_parts_zipIdx held
  let subtree (entry : Value × Nat) : List (List Nat × Visit) :=
    (entry.1.occurrences (some v)).map (under entry.2)
  refine ⟨([], ⟨v, parent⟩) :: front.flatMap subtree, back.flatMap subtree, ?_, ?_⟩
  · rw [occurrences_eq_cons, parts, List.flatMap_append, List.flatMap_cons, List.append_assoc,
      List.cons_append]
  · intro entry member
    rw [List.cons_append, ← List.flatMap_append] at member
    rcases List.mem_cons.mp member with rfl | member
    · exact nofun
    · obtain ⟨sibling, beside, inside⟩ := List.mem_flatMap.mp member
      obtain ⟨_, _, rfl⟩ := List.mem_map.mp inside
      exact fun same => elsewhere sibling beside (Option.some.inj same)

/-- A visit with its path continued from `path`. -/
def beneath (path : List Nat) (below : List Nat × Visit) : List Nat × Visit :=
  (path ++ below.1, below.2)

/-- The visits at and below one place follow each other without a gap: together they are the walk of
the subtree at that place. -/
theorem exists_block {parent : Option Value} {v : Value} {path : List Nat} {visit : Visit}
    (occurs : (path, visit) ∈ v.occurrences parent) :
    ∃ before after, v.occurrences parent =
        before ++ (visit.node.occurrences visit.parent).map (beneath path) ++ after ∧
      ∀ entry ∈ before ++ after, ¬path <+: entry.1 := by
  induction v using children_induction generalizing parent path with
  | step v ih =>
    rcases eq_root_or_under occurs with ⟨rfl, rfl⟩ | ⟨place, child, path, rfl, held, below⟩
    · refine ⟨[], [], ?_, by simp⟩
      have whole : beneath [] = id := rfl
      rw [whole, List.map_id, List.nil_append, List.append_nil]
    · obtain ⟨left, right, whole, elsewhere⟩ := exists_child_block parent held
      obtain ⟨before, after, block, outside⟩ := ih child (List.mem_of_getElem? held) below
      refine ⟨left ++ before.map (under place), after.map (under place) ++ right, ?_, ?_⟩
      · rw [whole, block, List.map_append, List.map_append, List.map_map]
        simp only [List.append_assoc]
        rfl
      · intro entry member leads
        have beside : entry ∈ left ++ right ∨ entry ∈ (before ++ after).map (under place) := by
          simp only [List.mem_append, List.map_append] at member ⊢
          tauto
        rcases beside with beside | beside
        · obtain ⟨rest, continued⟩ := leads
          exact elsewhere entry beside (by rw [← continued]; rfl)
        · obtain ⟨other, among, rfl⟩ := List.mem_map.mp beside
          exact outside other among (List.cons_prefix_cons.mp leads).2

/-- The walk is the recursive preorder. Each run of its stack from the root has the preorder of the
whole tree as what it visited and what the stack still leads to, and has as many rounds to go as
there are visits left, so it ends, and it ends with the walk. In the preorder a node comes first and
then its children with all below them, in field order. Every place of the tree is visited exactly
once, the lesser path first; each visit but that of the root is at a child of the node that it names
as parent; and the visits at and below one place form one block. -/
theorem walk_recursive_preorder (tree : Value) :
    (∀ visited rest, Runs [⟨tree, none⟩] visited rest →
        visited ++ stackPreorder rest = tree.preorder none ∧
          visited.length + pendingCount rest = tree.nodeCount) ∧
      Runs [⟨tree, none⟩] tree.walk [] ∧
      tree.walk = tree.preorder none ∧
      (∀ parent v, preorder parent v = ⟨v, parent⟩ :: v.children.flatMap (preorder (some v))) ∧
      (∀ v : Value, v.hasSlotPerField = true → v.children = v.fieldChildren.map Prod.snd) ∧
      tree.walk = (tree.occurrences none).map Prod.snd ∧
      (tree.occurrences none).Pairwise (fun earlier later => earlier.1 < later.1) ∧
      (∀ path visit, (path, visit) ∈ tree.occurrences none ↔ Occurs none tree path visit) ∧
      (∀ path visit, (path, visit) ∈ tree.occurrences none →
        path = [] ∧ visit = ⟨tree, none⟩ ∨
          ∃ above upper place, path = above ++ [place] ∧ (above, upper) ∈ tree.occurrences none ∧
            visit.parent = some upper.node ∧ upper.node.children[place]? = some visit.node) ∧
      ∀ path visit, (path, visit) ∈ tree.occurrences none →
        ∃ before after, tree.occurrences none =
            before ++ (visit.node.occurrences visit.parent).map (beneath path) ++ after ∧
          ∀ entry ∈ before ++ after, ¬path <+: entry.1 := by
  refine ⟨?_, runs_runStack _, walk_eq_preorder tree, preorder_eq_cons, ?_, ?_,
    pairwise_occurrences none tree, ?_, ?_, ?_⟩
  · intro visited rest runs
    have root : stackPreorder [⟨tree, none⟩] = tree.preorder none := List.flatMap_singleton ..
    exact ⟨runs.append_stackPreorder.trans root, runs.length_add_pendingCount⟩
  · intro v shaped
    exact (map_snd_fieldChildren shaped).symm
  · rw [walk_eq_preorder, map_visit_occurrences]
  · intro path visit
    exact mem_occurrences_iff
  · intro path visit member
    simpa only [mem_occurrences_iff] using (occurs_of_mem member).eq_root_or_child
  · intro path visit member
    exact exists_block member

end Value

end CallSites.Tree
