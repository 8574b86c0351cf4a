import CallSites.Proofs.Tree.Walk

/-! # Well-formed trees

The type of values leaves open how many slots a node has and whether values with one tag are one
object. Both are settled for the trees that are built: nodes have one slot for each of their fields,
and retagging numbers the nodes upwards in preorder, so that no two of them bear the same tag.
-/

namespace CallSites.Tree.Value

/-- Whether a node holds one slot for each field of its kind. -/
def hasSlotPerField : Value → Bool
  | node _ kind slots _ => slots.length == kind.fields.length
  | _ => true

/-- What holds of every tree of objects, although the type of values leaves it open: nodes have one
slot for each of their fields, and an object is the same value wherever it occurs. -/
structure WellFormed (tree : Value) : Prop where
  shaped : ∀ v ∈ tree.nodes, v.hasSlotPerField = true
  coherent : ∀ v ∈ tree.nodes, ∀ w ∈ tree.nodes, v.same w = true → v = w

theorem coherent_of_apart {values : List Value}
    (apart : values.Pairwise fun v w => v.same w = false ∧ w.same v = false) :
    ∀ v ∈ values, ∀ w ∈ values, v.same w = true → v = w := by
  have forward : values.Pairwise fun v w => v.same w = true → v = w :=
    apart.imp fun different same => by simp [different.1] at same
  have backward : values.Pairwise (flip fun v w => v.same w = true → v = w) :=
    apart.imp fun different same => by simp [different.2] at same
  exact fun v member w member' =>
    List.Pairwise.forall_of_forall_of_flip (fun _ _ _ => rfl) forward backward member member'

/-- The tag that a value bears. -/
def tag : Value → Nat
  | plain tag _ => tag
  | list tag _ => tag
  | node tag _ _ _ => tag

private theorem same_eq_false {v w : Value} (isNode : v.isNode = true) (different : v.tag ≠ w.tag) :
    v.same w = false := by
  cases v with
  | node =>
    cases w with
    | node => simpa [same, tag] using different
    | _ => rfl
  | _ => simp [Value.isNode] at isNode

/-- Values whose tags rise from `low` on and stay below `high`. -/
structure Rises (low high : Nat) (values : List Value) : Prop where
  le : low ≤ high
  ascending : values.Pairwise fun earlier later => earlier.tag < later.tag
  within : ∀ v ∈ values, low ≤ v.tag ∧ v.tag < high

theorem Rises.nil (low : Nat) : Rises low low [] := ⟨Nat.le_refl _, .nil, by simp⟩

theorem Rises.cons {high : Nat} {v : Value} {values : List Value}
    (rest : Rises (v.tag + 1) high values) : Rises v.tag high (v :: values) := by
  refine ⟨Nat.le_of_succ_le rest.le, List.pairwise_cons.mpr ⟨?_, rest.ascending⟩, ?_⟩
  · intro later member
    exact (rest.within later member).1
  · intro w member
    rcases List.mem_cons.mp member with rfl | member
    · exact ⟨Nat.le_refl _, rest.le⟩
    · have bounds := rest.within w member
      omega

private theorem Rises.append {low middle high : Nat} {left right : List Value}
    (first : Rises low middle left) (second : Rises middle high right) :
    Rises low high (left ++ right) := by
  refine ⟨Nat.le_trans first.le second.le, ?_, ?_⟩
  · refine List.pairwise_append.mpr ⟨first.ascending, second.ascending, ?_⟩
    intro earlier member later member'
    exact Nat.lt_of_lt_of_le (first.within earlier member).2 (second.within later member').1
  · intro v member
    have below := first.le
    have above := second.le
    rcases List.mem_append.mp member with member | member
    · have bounds := first.within v member
      omega
    · have bounds := second.within v member
      omega

private theorem Rises.weaken {low low' high : Nat} {values : List Value}
    (rises : Rises low high values) (lower : low' ≤ low) : Rises low' high values := by
  refine ⟨Nat.le_trans lower rises.le, rises.ascending, ?_⟩
  intro v member
  exact ⟨Nat.le_trans lower (rises.within v member).1, (rises.within v member).2⟩

theorem Rises.empty {low high : Nat} (le : low ≤ high) : Rises low high [] :=
  (Rises.nil high).weaken le

mutual

/-- The nodes of a retagged tree bear rising tags, in preorder. -/
theorem rises_retag (next : Nat) (v : Value) :
    Rises next (v.retag next).2 (v.retag next).1.nodes := by
  rw [nodes_eq_cons]
  cases v with
  | plain tag content => exact Rises.cons (v := plain next content) (.nil _)
  | list tag items =>
    have below := (rises_retagItems (next + 1) items).le
    exact Rises.cons (v := list next _) (.empty below)
  | node tag kind slots marks =>
    exact Rises.cons (v := node next kind _ marks) (rises_retagSlots (next + 1) slots)

private theorem rises_retagItems (next : Nat) (items : List Value) :
    Rises next (retagItems next items).2
      (((retagItems next items).1.filter isNode).flatMap nodes) := by
  cases items with
  | nil => exact .nil next
  | cons v rest =>
    have first := rises_retag next v
    have others := rises_retagItems (v.retag next).2 rest
    simp only [retagItems, List.filter_cons]
    split
    · rw [List.flatMap_cons]
      exact first.append others
    · exact others.weaken first.le

private theorem rises_retagSlots (next : Nat) (slots : List (Option Value)) :
    Rises next (retagSlots next slots).2
      (((retagSlots next slots).1.flatMap slotChildren).flatMap nodes) := by
  cases slots with
  | nil => exact .nil next
  | cons slot rest =>
    cases slot with
    | none => exact rises_retagSlots next rest
    | some v =>
      have others := rises_retagSlots (v.retag next).2 rest
      rw [retagSlots, List.flatMap_cons, List.flatMap_append]
      refine Rises.append ?_ others
      cases v with
      | plain tag content => exact .empty (Nat.le_succ next)
      | list tag items => exact (rises_retagItems (next + 1) items).weaken (Nat.le_succ next)
      | node tag kind slots marks =>
        have whole := rises_retag next (node tag kind slots marks)
        rwa [← List.flatMap_singleton nodes] at whole

end

private theorem isNode_of_child {v child : Value} (below : child ∈ v.children) :
    child.isNode = true := by
  cases v with
  | node tag kind slots marks =>
    obtain ⟨slot, -, member⟩ := List.mem_flatMap.mp below
    rcases slot with _ | w
    · simp [slotChildren] at member
    · cases w with
      | plain => simp [slotChildren] at member
      | list tag' items => exact (List.mem_filter.mp member).2
      | node => rw [List.mem_singleton.mp member, isNode]
  | _ => simp [children] at below

/-- All that is visited below the root are nodes. -/
theorem isNode_of_mem_nodes {tree v : Value} (isNode : tree.isNode = true)
    (member : v ∈ tree.nodes) : v.isNode = true := by
  induction tree using children_induction with
  | step tree ih =>
    rw [nodes_eq_cons] at member
    rcases List.mem_cons.mp member with rfl | member
    · exact isNode
    · obtain ⟨child, below, member⟩ := List.mem_flatMap.mp member
      exact ih child below (isNode_of_child below) member

/-- After retagging no two nodes are one object. -/
theorem apart_retag (next : Nat) {v : Value} (isNode : (v.retag next).1.isNode = true) :
    (v.retag next).1.nodes.Pairwise fun u w => u.same w = false ∧ w.same u = false := by
  refine (rises_retag next v).ascending.imp_of_mem ?_
  intro earlier later member member' less
  have left := isNode_of_mem_nodes isNode member
  have right := isNode_of_mem_nodes isNode member'
  exact ⟨same_eq_false left (Nat.ne_of_lt less), same_eq_false right (Nat.ne_of_gt less)⟩

theorem coherent_retag (next : Nat) {v : Value} (isNode : (v.retag next).1.isNode = true) :
    ∀ u ∈ (v.retag next).1.nodes, ∀ w ∈ (v.retag next).1.nodes, u.same w = true → u = w :=
  coherent_of_apart (apart_retag next isNode)

end CallSites.Tree.Value
