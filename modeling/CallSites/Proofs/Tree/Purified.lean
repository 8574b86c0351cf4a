import CallSites.Proofs.Tree.Content
import CallSites.Proofs.Tree.Respacing

/-! # The purified form of a value

Purification copies a value part by part. At every place of the copy stands the purified form of
what stands there in the original: of the same kind and with the same fields, among them those that
are named like a position, and without any mark. So a second purification changes nothing, and
values that differ in marks alone have copies that cannot be told apart. Neither equality nor, as
long as no mark holds a node, depth can see whether a value was purified.
-/

namespace CallSites.Tree.Value

/-- The marks that a node carries. -/
def marks : Value → List (String × Value)
  | node _ _ _ marks => marks
  | _ => []

private theorem purifyItems_eq_map (items : List Value) : purifyItems items = items.map purify := by
  induction items with
  | nil => rfl
  | cons item rest ih => rw [purifyItems, ih, List.map_cons]

private theorem purifySlots_eq_map (slots : List (Option Value)) :
    purifySlots slots = slots.map (Option.map purify) := by
  induction slots with
  | nil => rfl
  | cons slot rest ih => cases slot <;> rw [purifySlots, ih, List.map_cons] <;> rfl

/-! ### Part by part -/

private theorem slot?_purifySlots (name : String) (names : List String)
    (slots : List (Option Value)) :
    slot? name names (purifySlots slots) = (slot? name names slots).map purify := by
  rw [purifySlots_eq_map]
  induction names generalizing slots with
  | nil => rfl
  | cons field names ih =>
    cases slots with
    | nil => rfl
    | cons slot slots =>
      simp only [List.map_cons, slot?]
      split
      · rfl
      · exact ih slots

/-- What stands at a place of the purified form. -/
theorem at?_purify (v : Value) (path : List Nat) :
    v.purify.at? path = (v.at? path).map purify := by
  induction path generalizing v with
  | nil => cases v <;> rfl
  | cons place path ih =>
    cases v with
    | plain => rfl
    | list tag items =>
      rw [purify, at?, at?, purifyItems_eq_map, List.getElem?_map]
      cases items[place]? with
      | none => rfl
      | some item => exact ih item
    | node tag kind slots marks =>
      rw [purify, at?, at?, purifySlots_eq_map, List.getElem?_map]
      rcases slots[place]? with _ | _ | held
      · rfl
      · rfl
      · exact ih held

/-- A part and what is left of it without marks. A field is kept, with what it holds purified; any
other attribute was a mark. -/
structure PurifiedAs (part copy : Value) : Prop where
  unmarked : copy.marks = []
  sameKind : copy.kind? = part.kind?
  samePlain : copy.plain? = part.plain?
  fields : ∀ kind, part.kind? = some kind → ∀ name, copy.attr? name =
    if kind.fieldNamed name ∈ kind.fields then (part.attr? name).map purify else none

private theorem purifiedAs_purify (part : Value) : PurifiedAs part part.purify := by
  cases part with
  | node tag kind slots marks =>
    refine ⟨rfl, rfl, rfl, ?_⟩
    rintro _ ⟨⟩ name
    simp only [purify, attr?]
    split
    · exact slot?_purifySlots _ _ slots
    · rfl
  | _ =>
    refine ⟨rfl, rfl, rfl, ?_⟩
    intro kind held
    cases held

/-! ### A normal form -/

theorem purify_purify (v : Value) : v.purify.purify = v.purify := by
  induction v using parts_induction with
  | plain tag value => rfl
  | list tag items ih =>
    simp only [purify, purifyItems_eq_map, List.map_map, list.injEq, true_and]
    exact List.map_congr_left ih
  | node tag kind slots marks ih =>
    simp only [purify, purifySlots_eq_map, List.map_map, node.injEq, true_and, and_true]
    apply List.map_congr_left
    intro slot inside
    cases slot with
    | none => rfl
    | some held => exact congrArg some (ih held inside)

/-- Values that differ at most in their tags and in their marks. -/
inductive Remarked : Value → Value → Prop where
  | plain (tag tag' : Nat) (value : Plain) : Remarked (.plain tag value) (.plain tag' value)
  | list (tag tag' : Nat) {items items' : List Value} (each : List.Forall₂ Remarked items items') :
    Remarked (.list tag items) (.list tag' items')
  | node (tag tag' : Nat) (kind : Kind) {slots slots' : List (Option Value)}
    (marks marks' : List (String × Value))
    (fields : List.Forall₂ (Option.Rel Remarked) slots slots') :
    Remarked (.node tag kind slots marks) (.node tag' kind slots' marks')

mutual

/-- With new tags, the purified forms of values that differ in marks alone are one value. -/
theorem Remarked.retag_eq {v w : Value} (remarked : Remarked v w) (next : Nat) :
    v.purify.retag next = w.purify.retag next := by
  cases v with
  | plain => cases remarked with | plain => rfl
  | list tag items =>
    cases remarked with
    | list _ _ each => simp only [purify, retag, retagItems_of_remarked each]
  | node tag kind slots marks =>
    cases remarked with
    | node _ _ _ _ _ fields => simp only [purify, retag, retagSlots_of_remarked fields]
termination_by structural v

private theorem retagItems_of_remarked {xs ys : List Value} (each : List.Forall₂ Remarked xs ys)
    (next : Nat) : retagItems next (purifyItems xs) = retagItems next (purifyItems ys) := by
  cases xs with
  | nil => cases each with | nil => rfl
  | cons x xs =>
    cases each with
    | cons head rest =>
      simp only [purifyItems, retagItems, head.retag_eq, retagItems_of_remarked rest]
termination_by structural xs

private theorem retagSlots_of_remarked {xs ys : List (Option Value)}
    (fields : List.Forall₂ (Option.Rel Remarked) xs ys) (next : Nat) :
    retagSlots next (purifySlots xs) = retagSlots next (purifySlots ys) := by
  cases xs with
  | nil => cases fields with | nil => rfl
  | cons x xs =>
    cases fields with
    | cons head rest =>
      cases x with
      | none =>
        cases head with
        | none => simp only [purifySlots, retagSlots, retagSlots_of_remarked rest]
      | some v =>
        cases head with
        | some both =>
          simp only [purifySlots, retagSlots, both.retag_eq, retagSlots_of_remarked rest]
termination_by structural xs

end

/-! ### What does not see purification -/

theorem equal_purify_right (w v : Value) : w.equal v.purify = w.equal v := by
  rw [equal_comm, equal_purify_left, equal_comm]

theorem bareMarks_purify (v : Value) : v.purify.bareMarks = true := by
  induction v using parts_induction with
  | plain tag value => rfl
  | list tag items ih =>
    rw [purify, bareMarks, bareItems_iff, purifyItems_eq_map, List.forall_mem_map]
    exact ih
  | node tag kind slots marks ih =>
    rw [purify, bareMarks, List.all_nil, Bool.true_and, bareSlots_iff, purifySlots_eq_map]
    intro held inside
    obtain ⟨slot, among, copied⟩ := List.mem_map.mp inside
    obtain ⟨original, rfl, rfl⟩ := Option.map_eq_some_iff.mp copied
    exact ih original among

/-- A value whose marks hold no nodes is as deep as its purified form. -/
theorem depth_purify {v : Value} (bare : v.bareMarks = true) (keys : TraversalKeys)
    (limit : Option Int) : v.purify.depth keys limit = v.depth keys limit := by
  have respaced : Respaced v.purify v :=
    respaced_of_shape (shape_purify v) (bareMarks_purify v) bare
  exact respaced.depth_eq keys limit

/-- The purified form of a value has the same parts at the same places, with their kinds and their
fields, and no marks. To purify it again changes nothing. Equality does not tell it from the
original on either side, and depth does not if no mark holds a node. Values that differ in marks
alone have the same purified form, which is made of new objects. -/
theorem purify_normal_form (v : Value) :
    (∀ path, Option.Rel PurifiedAs (v.at? path) (v.purify.at? path)) ∧
      v.purify.purify = v.purify ∧
      (∀ w, v.purify.equal w = v.equal w ∧ w.equal v.purify = w.equal v) ∧
      (v.bareMarks = true → ∀ keys limit, v.purify.depth keys limit = v.depth keys limit) ∧
      ∀ w, Remarked v w → ∀ next, copied next v = copied next w := by
  refine ⟨?_, purify_purify v, ?_, ?_, ?_⟩
  · intro path
    rw [at?_purify]
    cases v.at? path with
    | none => exact .none
    | some part => exact .some (purifiedAs_purify part)
  · intro w
    exact ⟨equal_purify_left v w, equal_purify_right w v⟩
  · intro bare keys limit
    exact depth_purify bare keys limit
  · intro w remarked next
    rw [copied, remarked.retag_eq, copied]

/-- Depth does see purification where a mark holds a node and the table names the mark, even if no
position holds a node. -/
theorem depth_purify_of_marked :
    let expression := sampleAttributed "nope"
    expression.barePositions = true ∧
      expression.depth ⟨[("Attribute", ["value", "nope"])]⟩ none = 2 ∧
      expression.purify.depth ⟨[("Attribute", ["value", "nope"])]⟩ none = 1 := by
  decide +kernel

/-- The line of a type comment to ignore is a field, and only what is beside it is a position. -/
example :
    let ignore : Value := node 0 .typeIgnore [some (int 3), some (str "")] [("col_offset", int 4)]
    ignore.purify.attr? "lineno" = some (int 3) ∧ ignore.purify.attr? "col_offset" = none :=
  ⟨rfl, rfl⟩

end CallSites.Tree.Value
