import CallSites.Proofs.Tree.Depth
import CallSites.Proofs.Tree.WellFormed

/-! # Trees that differ in positions

Two trees are respaced if they differ at most in their tags and in marks that hold no nodes. They
have one shape, and the nodes at one place of the preorder are respaced again. Such trees are
equally deep under every table and with every limit, since a table can lead into marks only where
these hold nodes. A tree with bare marks and its copy, which has no marks and is made of new
objects, are respaced.
-/

namespace CallSites.Tree.Value

/-- Trees that differ at most in their tags and in marks that hold no nodes, as source positions
are. -/
inductive Respaced : Value → Value → Prop where
  | plain (tag tag' : Nat) (content : Plain) :
    Respaced (.plain tag content) (.plain tag' content)
  | list (tag tag' : Nat) {items items' : List Value} (each : List.Forall₂ Respaced items items') :
    Respaced (.list tag items) (.list tag' items')
  | node (tag tag' : Nat) (kind : Kind) {slots slots' : List (Option Value)}
    {marks marks' : List (String × Value)}
    (fields : List.Forall₂ (Option.Rel Respaced) slots slots')
    (others : ∀ name, (marks.lookup name).any holdsNode = true ∨
      (marks'.lookup name).any holdsNode = true →
        Option.Rel Respaced (marks.lookup name) (marks'.lookup name)) :
    Respaced (.node tag kind slots marks) (.node tag' kind slots' marks')

mutual

theorem Respaced.sameShape {v w : Value} (respaced : Respaced v w) : SameShape v w := by
  cases v with
  | plain => cases respaced with | plain => rfl
  | list tag items =>
    cases respaced with
    | list _ _ each => rw [SameShape, shape, shape, shapeItems_of_respaced each]
  | node tag kind slots marks =>
    cases respaced with
    | node _ _ _ fields => rw [SameShape, shape, shape, shapeSlots_of_respaced fields]
termination_by structural v

private theorem shapeItems_of_respaced {xs ys : List Value} (each : List.Forall₂ Respaced xs ys) :
    shapeItems xs = shapeItems ys := by
  cases xs with
  | nil => cases each with | nil => rfl
  | cons x xs =>
    cases each with
    | cons head rest =>
      rw [shapeItems, shapeItems, head.sameShape, shapeItems_of_respaced rest]
termination_by structural xs

private theorem shapeSlots_of_respaced {xs ys : List (Option Value)}
    (fields : List.Forall₂ (Option.Rel Respaced) xs ys) : shapeSlots xs = shapeSlots ys := by
  cases xs with
  | nil => cases fields with | nil => rfl
  | cons x xs =>
    cases fields with
    | cons head rest =>
      cases x with
      | none =>
        cases head with
        | none => rw [shapeSlots, shapeSlots, shapeSlots_of_respaced rest]
      | some v =>
        cases head with
        | some both =>
          rw [shapeSlots, shapeSlots, both.sameShape, shapeSlots_of_respaced rest]
termination_by structural xs

end

/-! ### Nodes at one place -/

private theorem respaced_slotChildren {x y : Option Value} (related : Option.Rel Respaced x y) :
    List.Forall₂ Respaced (slotChildren x) (slotChildren y) := by
  cases related with
  | none => exact .nil
  | some both =>
    cases both with
    | plain => exact .nil
    | list _ _ each =>
      refine List.rel_filter (fun _ _ item => ?_) each
      exact iff_of_eq (congrArg (· = true) (eq_of_shape isNode_shape item.sameShape))
    | node _ _ _ fields others => exact .cons (.node _ _ _ fields others) .nil

theorem Respaced.children {v w : Value} (respaced : Respaced v w) :
    List.Forall₂ Respaced v.children w.children := by
  cases respaced with
  | node _ _ _ fields => exact List.rel_flatMap fields fun _ _ => respaced_slotChildren
  | _ => exact .nil

/-- Nodes at one place of the preorder are respaced. -/
theorem Respaced.nodes {v w : Value} (respaced : Respaced v w) :
    List.Forall₂ Respaced v.nodes w.nodes := by
  induction v using children_induction generalizing w with
  | step v ih =>
    rw [nodes_eq_cons, nodes_eq_cons]
    refine .cons respaced ?_
    have children := (List.forall₂_and_left _ _).mpr ⟨fun _ => id, respaced.children⟩
    exact List.rel_flatMap children fun x y both => ih x both.1 both.2

private theorem zip_flatMap {α β γ δ : Type} {f : α → List γ} {g : β → List δ} {xs : List α}
    {ys : List β} (lengths : List.Forall₂ (fun x y => (f x).length = (g y).length) xs ys) :
    (xs.flatMap f).zip (ys.flatMap g) =
      (xs.zip ys).flatMap fun both => (f both.1).zip (g both.2) := by
  induction lengths with
  | nil => rfl
  | cons head _ ih =>
    simp only [List.flatMap_cons, List.zip_cons_cons, List.zip_append head, ih]

/-- The pairs of nodes at one place of the preorder, from the root on. -/
theorem Respaced.zip_nodes {v w : Value} (respaced : Respaced v w) :
    v.nodes.zip w.nodes =
      (v, w) :: (v.children.zip w.children).flatMap fun both => both.1.nodes.zip both.2.nodes := by
  rw [nodes_eq_cons, nodes_eq_cons, List.zip_cons_cons, zip_flatMap]
  exact respaced.children.imp fun _ _ both => both.nodes.length_eq

theorem Respaced.of_mem_zip {v w : Value} (respaced : Respaced v w) {both : Value × Value}
    (member : both ∈ v.nodes.zip w.nodes) : Respaced both.1 both.2 :=
  (List.forall₂_iff_zip.mp respaced.nodes).2 member

theorem Respaced.nodes_paired {v w : Value} (respaced : Respaced v w) :
    List.Forall₂ (fun x y => (x, y) ∈ v.nodes.zip w.nodes) v.nodes w.nodes :=
  List.forall₂_iff_zip.mpr ⟨respaced.nodes.length_eq, id⟩

/-- With a pair of nodes the pairs of their children stand at one place. -/
theorem Respaced.mem_zip_of_children {t t' v w x y : Value} (respaced : Respaced t t')
    (member : (v, w) ∈ t.nodes.zip t'.nodes) (below : (x, y) ∈ v.children.zip w.children) :
    (x, y) ∈ t.nodes.zip t'.nodes := by
  induction t using children_induction generalizing t' with
  | step t ih =>
    have children := List.forall₂_iff_zip.mp respaced.children
    rw [respaced.zip_nodes] at member ⊢
    rcases List.mem_cons.mp member with root | member
    · obtain ⟨rfl, rfl⟩ := Prod.mk.inj root
      refine List.mem_cons_of_mem _ (List.mem_flatMap.mpr ⟨(x, y), below, ?_⟩)
      rw [(children.2 below).zip_nodes]
      exact List.mem_cons_self ..
    · obtain ⟨⟨first, first'⟩, inside, member⟩ := List.mem_flatMap.mp member
      have deeper := ih first (List.of_mem_zip inside).1 (children.2 inside) member
      exact List.mem_cons_of_mem _ (List.mem_flatMap.mpr ⟨_, inside, deeper⟩)

theorem Respaced.isKind_eq {v w : Value} (respaced : Respaced v w) (kind : Kind) :
    v.isKind kind = w.isKind kind := by
  rw [isKind, eq_of_shape kind?_shape respaced.sameShape, isKind]

/-- Respaced trees hold respaced values in each of their fields. -/
theorem Respaced.attr? {v w : Value} (respaced : Respaced v w) {kind : Kind}
    (isKind : v.isKind kind = true) {name : String} (isField : kind.fieldNamed name ∈ kind.fields) :
    Option.Rel Respaced (v.attr? name) (w.attr? name) := by
  cases respaced with
  | node _ _ kind' fields =>
    obtain rfl : kind' = kind := by simpa [Value.isKind, kind?] using isKind
    simp only [Value.attr?, if_pos isField]
    exact slot?_rel fields _ _
  | _ => simp [Value.isKind, kind?] at isKind

theorem self_mem_nodes (v : Value) : v ∈ v.nodes := by
  rw [nodes_eq_cons]
  exact List.mem_cons_self ..

/-- The nodes below a node stand among those of the tree, in order. -/
theorem nodes_sublist {t v : Value} (member : v ∈ t.nodes) : v.nodes.Sublist t.nodes := by
  induction t using children_induction with
  | step t ih =>
    rw [nodes_eq_cons t] at member ⊢
    rcases List.mem_cons.mp member with rfl | member
    · rw [nodes_eq_cons]
    · obtain ⟨child, below, member⟩ := List.mem_flatMap.mp member
      have inside : child.nodes ∈ t.children.map nodes := List.mem_map_of_mem below
      exact .cons _ ((ih child below member).trans (List.sublist_flatten_of_mem inside))

theorem children_sublist (v : Value) : v.children.Sublist v.nodes := by
  rw [nodes_eq_cons]
  refine .cons _ ?_
  induction v.children with
  | nil => exact .slnil
  | cons child rest ih =>
    rw [List.flatMap_cons, nodes_eq_cons, List.cons_append]
    exact .cons_cons _ (ih.trans (List.sublist_append_right ..))

/-! ### Depths -/

private theorem attrSteps_of_respaced {x y : Option Value} (related : Option.Rel Respaced x y) :
    List.Forall₂ (fun a b => Respaced a.1 b.1 ∧ a.2 = b.2) (attrSteps x) (attrSteps y) := by
  cases related with
  | none => exact .nil
  | some both =>
    cases both with
    | plain => exact .nil
    | list tag tag' each =>
      have children := respaced_slotChildren (.some (.list tag tag' each))
      refine List.forall₂_map_left_iff.mpr (List.forall₂_map_right_iff.mpr ?_)
      exact children.imp fun _ _ item => ⟨item, rfl⟩
    | node _ _ _ fields others => exact .cons ⟨.node _ _ _ fields others, rfl⟩ .nil

/-- A mark that holds no node offers no steps. -/
theorem attrSteps_of_not_any {slot : Option Value} (bare : ¬slot.any holdsNode = true) :
    attrSteps slot = [] := by
  rw [attrSteps_eq_nil_iff]
  rintro v rfl
  simpa using bare

theorem Respaced.steps {v w : Value} (respaced : Respaced v w) (keys : TraversalKeys) :
    List.Forall₂ (fun a b => Respaced a.1 b.1 ∧ a.2 = b.2) (v.steps keys) (w.steps keys) := by
  cases respaced with
  | @node _ _ _ _ _ marks marks' fields others =>
    apply List.rel_flatMap (R := Eq) (List.forall₂_refl _)
    rintro name _ rfl
    simp only [Value.attr?]
    split
    · exact attrSteps_of_respaced (slot?_rel fields _ _)
    · by_cases held : (marks.lookup name).any holdsNode = true ∨
          (marks'.lookup name).any holdsNode = true
      · exact attrSteps_of_respaced (others name held)
      · obtain ⟨bare, bare'⟩ := not_or.mp held
        rw [attrSteps_of_not_any bare, attrSteps_of_not_any bare']
        exact .nil
  | _ => exact .nil

/-- Respaced trees are equally deep. -/
theorem Respaced.depth_eq {v w : Value} (respaced : Respaced v w) (keys : TraversalKeys)
    (limit : Option Int) : v.depth keys limit = w.depth keys limit :=
  depthFrom_eq_of_related Respaced (fun _ _ both => both.steps keys) limit 0 v w respaced

/-! ### Copies -/

private theorem any_holdsNode_lookup {marks : List (String × Value)}
    (bare : marks.all (fun mark => !mark.2.holdsNode) = true) (name : String) :
    (marks.lookup name).any holdsNode = false := by
  cases found : marks.lookup name with
  | none => rfl
  | some v => exact holdsNode_lookup bare found

mutual

/-- Trees of one shape with bare marks are respaced. -/
theorem respaced_of_shape {v w : Value} (same : SameShape v w) (bare : v.bareMarks = true)
    (bare' : w.bareMarks = true) : Respaced v w := by
  cases v with
  | plain tag content =>
    cases w with
    | plain tag' content' =>
      simp only [SameShape, shape, plain.injEq, true_and] at same
      exact same ▸ .plain ..
    | _ => simp [SameShape, shape] at same
  | list tag items =>
    cases w with
    | list tag' items' =>
      simp only [SameShape, shape, list.injEq, true_and] at same
      exact .list _ _ (respaced_of_shapeItems same bare bare')
    | _ => simp [SameShape, shape] at same
  | node tag kind slots marks =>
    cases w with
    | node tag' kind' slots' marks' =>
      simp only [SameShape, shape, node.injEq, true_and, and_true] at same
      simp only [bareMarks, Bool.and_eq_true] at bare bare'
      obtain ⟨rfl, same⟩ := same
      refine .node _ _ _ (respaced_of_shapeSlots same bare.2 bare'.2) ?_
      rintro name (held | held)
      · rw [any_holdsNode_lookup bare.1] at held
        cases held
      · rw [any_holdsNode_lookup bare'.1] at held
        cases held
    | _ => simp [SameShape, shape] at same
termination_by structural v

private theorem respaced_of_shapeItems {xs ys : List Value} (same : shapeItems xs = shapeItems ys)
    (bare : bareItems xs = true) (bare' : bareItems ys = true) : List.Forall₂ Respaced xs ys := by
  cases xs with
  | nil =>
    cases ys with
    | nil => exact .nil
    | cons => simp [shapeItems] at same
  | cons x xs =>
    cases ys with
    | nil => simp [shapeItems] at same
    | cons y ys =>
      simp only [shapeItems, List.cons.injEq] at same
      simp only [bareItems, Bool.and_eq_true] at bare bare'
      exact .cons (respaced_of_shape same.1 bare.1 bare'.1)
        (respaced_of_shapeItems same.2 bare.2 bare'.2)
termination_by structural xs

private theorem respaced_of_shapeSlots {xs ys : List (Option Value)}
    (same : shapeSlots xs = shapeSlots ys) (bare : bareSlots xs = true)
    (bare' : bareSlots ys = true) :
    List.Forall₂ (Option.Rel Respaced) xs ys := by
  cases xs with
  | nil =>
    cases ys with
    | nil => exact .nil
    | cons y ys => cases y <;> simp [shapeSlots] at same
  | cons x xs =>
    cases forall₂_of_shapeSlots same with
    | @cons _ y _ ys head rest =>
      cases head with
      | none =>
        simp only [shapeSlots, List.cons.injEq, true_and] at same
        exact .cons .none (respaced_of_shapeSlots same bare bare')
      | some both =>
        simp only [shapeSlots, List.cons.injEq] at same
        simp only [bareSlots, Bool.and_eq_true] at bare bare'
        exact .cons (.some (respaced_of_shape both bare.1 bare'.1))
          (respaced_of_shapeSlots same.2 bare.2 bare'.2)
termination_by structural xs

end

/-- A copy of a tree without marks, made of new objects. -/
def copied (next : Nat) (v : Value) : Value := (v.purify.retag next).1

private theorem sameShape_copied (next : Nat) (v : Value) : SameShape v (copied next v) := by
  rw [SameShape, copied, shape_retag, shape_purify]

mutual

private theorem bareMarks_copied (next : Nat) (v : Value) : (copied next v).bareMarks = true := by
  cases v with
  | plain => rfl
  | list tag items => exact bareItems_copied (next + 1) items
  | node tag kind slots marks =>
    rw [copied, purify, retag, bareMarks, List.all_nil, Bool.true_and]
    exact bareSlots_copied (next + 1) slots
termination_by structural v

private theorem bareItems_copied (next : Nat) (items : List Value) :
    bareItems (retagItems next (purifyItems items)).1 = true := by
  cases items with
  | nil => rfl
  | cons v rest =>
    rw [purifyItems, retagItems, bareItems, Bool.and_eq_true]
    exact ⟨bareMarks_copied next v, bareItems_copied _ rest⟩
termination_by structural items

private theorem bareSlots_copied (next : Nat) (slots : List (Option Value)) :
    bareSlots (retagSlots next (purifySlots slots)).1 = true := by
  cases slots with
  | nil => rfl
  | cons slot rest =>
    cases slot with
    | none => exact bareSlots_copied next rest
    | some v =>
      rw [purifySlots, retagSlots, bareSlots, Bool.and_eq_true]
      exact ⟨bareMarks_copied next v, bareSlots_copied _ rest⟩
termination_by structural slots

end

/-- A tree with bare marks and its copies are respaced. -/
theorem respaced_copied (next : Nat) {v : Value} (bare : v.bareMarks = true) :
    Respaced v (copied next v) :=
  respaced_of_shape (sameShape_copied next v) bare (bareMarks_copied next v)

private theorem exists_copied_of_item {next : Nat} {items : List Value} {item : Value}
    (member : item ∈ (retagItems next (purifyItems items)).1) :
    ∃ original ∈ items, ∃ next, item = copied next original := by
  induction items generalizing next with
  | nil => simp [purifyItems, retagItems] at member
  | cons v rest ih =>
    rcases List.mem_cons.mp member with rfl | member
    · exact ⟨v, List.mem_cons_self .., next, rfl⟩
    · obtain ⟨original, inside, copy⟩ := ih member
      exact ⟨original, List.mem_cons_of_mem _ inside, copy⟩

private theorem exists_copied_of_slot {next : Nat} {slots : List (Option Value)} {child : Value}
    (member : child ∈ (retagSlots next (purifySlots slots)).1.flatMap slotChildren) :
    ∃ original ∈ slots.flatMap slotChildren, ∃ next, child = copied next original := by
  induction slots generalizing next with
  | nil => simp [purifySlots, retagSlots] at member
  | cons slot rest ih =>
    cases slot with
    | none => exact ih member
    | some v =>
      simp only [purifySlots, retagSlots, List.flatMap_cons, List.mem_append] at member ⊢
      rcases member with member | member
      · cases v with
        | plain => simp [purify, retag, slotChildren] at member
        | list tag items =>
          obtain ⟨held, isNode⟩ := List.mem_filter.mp member
          obtain ⟨original, inside, next, rfl⟩ := exists_copied_of_item held
          rw [eq_of_shape isNode_shape (sameShape_copied next original).symm] at isNode
          exact ⟨original, .inl (List.mem_filter.mpr ⟨inside, isNode⟩), next, rfl⟩
        | node tag kind slots marks =>
          exact ⟨_, .inl (List.mem_singleton_self _), next, List.mem_singleton.mp member⟩
      · obtain ⟨original, inside, copy⟩ := ih member
        exact ⟨original, .inr inside, copy⟩

/-- All nodes of a copy are copies. -/
theorem exists_copied_of_node {next : Nat} {v w : Value} (member : w ∈ (copied next v).nodes) :
    ∃ original next, w = copied next original := by
  induction v using children_induction generalizing next with
  | step v ih =>
    rw [nodes_eq_cons] at member
    rcases List.mem_cons.mp member with rfl | member
    · exact ⟨v, next, rfl⟩
    · obtain ⟨child, below, member⟩ := List.mem_flatMap.mp member
      cases v with
      | node tag kind slots marks =>
        obtain ⟨original, inside, next, rfl⟩ := exists_copied_of_slot below
        exact ih original inside member
      | _ => simp [copied, purify, retag, children] at below

/-- No two nodes of a copy are one object. -/
theorem apart_copied (next : Nat) {v : Value} (isNode : v.isNode = true) :
    (copied next v).nodes.Pairwise fun u w => u.same w = false ∧ w.same u = false := by
  rw [eq_of_shape isNode_shape (sameShape_copied next v)] at isNode
  exact apart_retag next isNode

end CallSites.Tree.Value
