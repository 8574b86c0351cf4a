import CallSites.Proofs.Tree.Fields
import CallSites.Tree.Depth
import Mathlib.Data.List.Nodup

/-! # Traversal along a table

The standard table has one row for each kind, found by the name of the kind, and lists the fields of
the kind less the context markers. The steps along it are therefore the children of a node that the
other fields hold, and to follow them from the root is to walk the tree without what lies in a
context field. Names of kinds are all different, so no row hides another.
-/

namespace CallSites.Tree

namespace Kind

private theorem mem_all (kind : Kind) : kind ∈ all := by
  cases kind <;> decide +kernel

private theorem nodup_labels : (all.map label).Nodup := by
  decide +kernel

/-- No two kinds share a name. -/
theorem label_injective {kind other : Kind} (same : kind.label = other.label) : kind = other :=
  List.inj_on_of_nodup_map nodup_labels (mem_all kind) (mem_all other) same

/-- A table with one row for each of some kinds has the row of a kind under its name. -/
theorem lookup_label {α : Type} (kinds : List Kind) (entry : Kind → α) (kind : Kind) :
    (kinds.map fun other => (other.label, entry other)).lookup kind.label =
      if kind ∈ kinds then some (entry kind) else none := by
  induction kinds with
  | nil => rfl
  | cons other kinds ih =>
    rw [List.map_cons, List.lookup_cons, ih]
    by_cases same : kind = other
    · subst same
      simp
    · have different : (kind.label == other.label) = false := by
        rw [beq_eq_false_iff_ne]
        exact fun shared => same (label_injective shared)
      simp [different, same]

end Kind

namespace TraversalKeys

/-- A built table follows all fields of a kind in it but the excluded ones. -/
theorem row_build (root : Kind) (excluded : List String) (kind : Kind) :
    (build root excluded).row kind =
      if Kind.within root kind then kind.fields.filter (· ∉ excluded) else [] := by
  rw [row, build, Kind.lookup_label]
  by_cases inside : Kind.within root kind = true
  · have listed := List.mem_filter.mpr ⟨kind.mem_all, inside⟩
    rw [if_pos listed, if_pos inside, Option.getD_some]
  · have missing : kind ∉ Kind.all.filter (Kind.within root) :=
      fun listed => inside (List.mem_filter.mp listed).2
    rw [if_neg missing, if_neg inside, Option.getD_none]

private theorem row_build_anyNode (excluded : List String) (kind : Kind) :
    (build .anyNode excluded).row kind = kind.fields.filter (· ∉ excluded) := by
  have inside : Kind.within .anyNode kind = true := by simp [Kind.within]
  rw [row_build, if_pos inside]

end TraversalKeys

namespace Value

/-- The recursive preorder along a table: a node with its parent, then what its steps lead to. -/
def structuralPreorder (keys : TraversalKeys) (parent : Option Value) (v : Value) : List Visit :=
  ⟨v, parent⟩ :: (v.steps keys).attach.flatMap fun step =>
    structuralPreorder keys (some v) step.1.1
termination_by sizeOf v
decreasing_by exact sizeOf_step_lt step.2

private theorem structuralPreorder_eq_cons (keys : TraversalKeys) (parent : Option Value)
    (v : Value) :
    v.structuralPreorder keys parent =
      ⟨v, parent⟩ :: ((v.steps keys).map Prod.fst).flatMap (structuralPreorder keys (some v)) := by
  rw [structuralPreorder, List.flatMap_map]
  congr 1
  conv_rhs => rw [← List.attach_map_subtype_val (v.steps keys), List.flatMap_map]

/-- The preorder in which each visit comes with the field that holds its node. -/
def fieldVisits (field : Option String) (parent : Option Value) (v : Value) :
    List (Option String × Visit) :=
  (field, ⟨v, parent⟩) :: v.fieldChildren.attach.flatMap fun entry =>
    fieldVisits (some entry.1.1) (some v) entry.1.2
termination_by v.nodeCount
decreasing_by exact nodeCount_child_lt (mem_children_of_fieldChildren entry.2)

private theorem fieldVisits_eq_cons (field : Option String) (parent : Option Value) (v : Value) :
    v.fieldVisits field parent = (field, ⟨v, parent⟩) :: v.fieldChildren.flatMap fun entry =>
      entry.2.fieldVisits (some entry.1) (some v) := by
  rw [fieldVisits]
  congr 1
  conv_rhs => rw [← List.attach_map_subtype_val v.fieldChildren, List.flatMap_map]

/-- Each visit but the first comes with the field in which its parent holds its node. -/
theorem held_of_mem_fieldVisits {field : Option String} {parent : Option Value} {v : Value}
    {entry : Option String × Visit} (member : entry ∈ v.fieldVisits field parent) :
    entry = (field, ⟨v, parent⟩) ∨ ∃ holder name, entry.2.parent = some holder ∧
      entry.1 = some name ∧ (name, entry.2.node) ∈ holder.fieldChildren := by
  induction v using children_induction generalizing field parent with
  | step v ih =>
    rw [fieldVisits_eq_cons] at member
    rcases List.mem_cons.mp member with first | member
    · exact .inl first
    · obtain ⟨⟨name, child⟩, held, inside⟩ := List.mem_flatMap.mp member
      rcases ih child (mem_children_of_fieldChildren held) inside with rfl | further
      · exact .inr ⟨v, name, rfl, rfl, held⟩
      · exact .inr further

/-- Without their fields the visits are the preorder. -/
theorem map_snd_fieldVisits (field : Option String) (parent : Option Value) {v : Value}
    (shaped : ∀ w ∈ v.nodes, w.hasSlotPerField = true) :
    (v.fieldVisits field parent).map Prod.snd = v.preorder parent := by
  induction v using children_induction generalizing field parent with
  | step v ih =>
    rw [nodes_eq_cons, List.forall_mem_cons] at shaped
    rw [fieldVisits_eq_cons, preorder_eq_cons, List.map_cons, List.map_flatMap,
      ← map_snd_fieldChildren shaped.1, List.flatMap_map]
    congr 1
    apply List.flatMap_congr
    intro entry member
    have below := mem_children_of_fieldChildren member
    exact ih entry.2 below _ _ fun w inside =>
      shaped.2 w (List.mem_flatMap.mpr ⟨entry.2, below, inside⟩)

private theorem map_fst_attrSteps (attr : Option Value) :
    (attrSteps attr).map Prod.fst = slotChildren attr := by
  rcases attr with _ | v
  · rfl
  · cases v with
    | list tag items =>
      rw [attrSteps, slotChildren, List.map_map]
      exact List.map_id _
    | _ => rfl

private theorem filter_named (keep : String → Bool) (fields : List String)
    (held : String → List Value) :
    ((fields.flatMap fun field => (held field).map (field, ·)).filter fun entry => keep entry.1) =
      (fields.filter keep).flatMap fun field => (held field).map (field, ·) := by
  rw [List.filter_flatMap, ← flatMap_ite]
  apply List.flatMap_congr
  intro field _
  rw [List.filter_map, Function.comp_def]
  cases kept : keep field <;> simp [kept]

/-- The steps along a table of all kinds lead to the children that fields hold which are not
excluded. -/
theorem map_fst_steps (excluded : List String) (v : Value) :
    (v.steps (.build .anyNode excluded)).map Prod.fst =
      (v.fieldChildren.filter fun entry => entry.1 ∉ excluded).map Prod.snd := by
  cases v with
  | node tag kind slots marks =>
    rw [steps, TraversalKeys.row_build_anyNode, fieldChildren, filter_named (· ∉ excluded),
      List.map_flatMap, List.map_flatMap]
    simp only [map_fst_attrSteps, map_snd_named]
  | _ => rfl

/-- A node without children is the only visit of its walk. -/
theorem fieldVisits_of_childless (field : Option String) (parent : Option Value) {v : Value}
    (childless : v.children = []) : v.fieldVisits field parent = [(field, ⟨v, parent⟩)] := by
  have none : v.fieldChildren = [] := by
    apply List.eq_nil_iff_forall_not_mem.mpr
    intro entry member
    have below := mem_children_of_fieldChildren member
    rw [childless] at below
    exact List.not_mem_nil below
  rw [fieldVisits_eq_cons, none, List.flatMap_nil]

/-- Whether the walk comes to a node other than by an excluded field. -/
def follows (excluded : List String) (field : Option String) : Bool :=
  field.all (· ∉ excluded)

/-- Along a table of all kinds the preorder leaves out the visits of nodes in the excluded fields,
if these nodes have no children. -/
theorem structuralPreorder_build (excluded : List String) {v : Value}
    (childless : ∀ w ∈ v.nodes, ∀ entry ∈ w.fieldChildren,
      entry.1 ∈ excluded → entry.2.children = [])
    (field : Option String) (parent : Option Value) (followed : follows excluded field = true) :
    v.structuralPreorder (.build .anyNode excluded) parent =
      ((v.fieldVisits field parent).filter fun entry => follows excluded entry.1).map Prod.snd := by
  induction v using children_induction generalizing field parent with
  | step v ih =>
    rw [nodes_eq_cons, List.forall_mem_cons] at childless
    have below : ∀ entry ∈ v.fieldChildren,
        ((entry.2.fieldVisits (some entry.1) (some v)).filter fun visit =>
            follows excluded visit.1).map Prod.snd =
          if decide (entry.1 ∉ excluded) then
            entry.2.structuralPreorder (.build .anyNode excluded) (some v) else [] := by
      intro entry member
      have child := mem_children_of_fieldChildren member
      by_cases out : entry.1 ∈ excluded
      · rw [fieldVisits_of_childless _ _ (childless.1 entry member out)]
        simp [follows, out]
      · have kept : follows excluded (some entry.1) = true := by simp [follows, out]
        rw [if_pos (by simpa using out), ih entry.2 child ?_ _ _ kept]
        intro w inside
        exact childless.2 w (List.mem_flatMap.mpr ⟨entry.2, child, inside⟩)
    rw [structuralPreorder_eq_cons, map_fst_steps, fieldVisits_eq_cons, List.filter_cons,
      if_pos followed, List.map_cons, List.filter_flatMap, List.map_flatMap,
      List.flatMap_congr below, flatMap_ite, List.flatMap_map]

/-- The walk and the preorder along the standard table see the same nodes with the same parents, in
the same order, but for the nodes that lie in a context field. -/
theorem structuralPreorder_standard {tree : Value}
    (shaped : ∀ v ∈ tree.nodes, v.hasSlotPerField = true)
    (childless : ∀ v ∈ tree.nodes, ∀ entry ∈ v.fieldChildren,
      entry.1 = "ctx" → entry.2.children = []) :
    tree.walk = (tree.fieldVisits none none).map Prod.snd ∧
      (∀ entry ∈ tree.fieldVisits none none, entry = (none, ⟨tree, none⟩) ∨
        ∃ holder name, entry.2.parent = some holder ∧ entry.1 = some name ∧
          (name, entry.2.node) ∈ holder.fieldChildren) ∧
      tree.structuralPreorder .standard none =
        ((tree.fieldVisits none none).filter fun entry => entry.1 ≠ some "ctx").map Prod.snd := by
  refine ⟨?_, ?_, ?_⟩
  · rw [walk_eq_preorder, map_snd_fieldVisits none none shaped]
  · intro entry member
    exact held_of_mem_fieldVisits member
  · have excluded : ∀ v ∈ tree.nodes, ∀ entry ∈ v.fieldChildren,
        entry.1 ∈ TraversalKeys.contextFields → entry.2.children = [] := by
      intro v member entry inside isContext
      exact childless v member entry inside (List.mem_singleton.mp isContext)
    rw [TraversalKeys.standard, structuralPreorder_build _ excluded none none rfl]
    congr 2
    funext entry
    cases entry.1 <;> simp [follows, TraversalKeys.contextFields]

/-- The list of one attribute `x.y` and of nothing; all three context fields hold one marker. -/
def sampleList : Value :=
  let marker := node 1 .load [] []
  let name := node 2 .name [some (str "x"), some marker] []
  let access := node 3 .attributeRef [some name, some (str "y"), some marker] []
  node 4 .list [some (list 5 [access, null]), some marker] []

theorem sampleList_traversed :
    (∀ v ∈ sampleList.nodes, v.hasSlotPerField = true) ∧
      (∀ v ∈ sampleList.nodes, ∀ entry ∈ v.fieldChildren,
        entry.1 = "ctx" → entry.2.children = []) ∧
      sampleList.walk = (sampleList.fieldVisits none none).map Prod.snd ∧
      (∀ entry ∈ sampleList.fieldVisits none none, entry = (none, ⟨sampleList, none⟩) ∨
        ∃ holder name, entry.2.parent = some holder ∧ entry.1 = some name ∧
          (name, entry.2.node) ∈ holder.fieldChildren) ∧
      sampleList.structuralPreorder .standard none =
        ((sampleList.fieldVisits none none).filter fun entry =>
          entry.1 ≠ some "ctx").map Prod.snd :=
  ⟨by decide, by decide, structuralPreorder_standard (by decide) (by decide)⟩

end Value

end CallSites.Tree
