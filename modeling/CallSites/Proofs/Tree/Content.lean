import CallSites.Proofs.Number.Comparison
import CallSites.Proofs.Tree.Equivalence

/-! # What equal values have in common

The content of a value is what it says: its kinds, lists and plain values, without tags and marks,
and with null wherever a node holds nothing. Values are equal exactly if their contents are, when
plain values count as equal that are of one type and alike. The comparison of values asks the left
one what it is, but the equality of contents is the same from both sides.

A part of a value is reached by a path, which leads through slots and lists alike. A value differs
from itself only if such a path leads to a NaN.
-/

namespace CallSites.Tree

/-- What a value says. A node says something at every place, if only null. -/
inductive Content where
  | plain (value : Plain)
  | list (items : List Content)
  | node (kind : Kind) (slots : Nat → Content)

namespace Content

/-- Contents that are equal when plain values count as equal if they are related. -/
inductive EqualBy (related : Plain → Plain → Prop) : Content → Content → Prop where
  | plain {a b : Plain} (both : related a b) : EqualBy related (.plain a) (.plain b)
  | list {xs ys : List Content} (each : List.Forall₂ (EqualBy related) xs ys) :
    EqualBy related (.list xs) (.list ys)
  | node {kind : Kind} {f g : Nat → Content} (each : ∀ place, EqualBy related (f place) (g place)) :
    EqualBy related (.node kind f) (.node kind g)

private theorem equalBy_plain_iff {related : Plain → Plain → Prop} {a b : Plain} :
    EqualBy related (.plain a) (.plain b) ↔ related a b := by
  constructor
  · rintro ⟨both⟩
    assumption
  · exact .plain

private theorem equalBy_list_iff {related : Plain → Plain → Prop} {xs ys : List Content} :
    EqualBy related (.list xs) (.list ys) ↔ List.Forall₂ (EqualBy related) xs ys := by
  constructor
  · rintro ⟨each⟩
    assumption
  · exact .list

private theorem equalBy_node_iff {related : Plain → Plain → Prop} {kind kind' : Kind}
    {f g : Nat → Content} : EqualBy related (.node kind f) (.node kind' g) ↔
      kind = kind' ∧ ∀ place, EqualBy related (f place) (g place) := by
  constructor
  · rintro ⟨each⟩
    exact ⟨rfl, ‹_›⟩
  · rintro ⟨rfl, each⟩
    exact .node each

end Content

/-- Plain values of one type that are alike. -/
def Plain.SameTypeAlike (a b : Plain) : Prop := a.typeName = b.typeName ∧ a.alike b = true

namespace Value

mutual

/-- The content of a value. -/
def content : Value → Content
  | plain _ value => .plain value
  | list _ items => .list (itemContents items)
  | node _ kind slots _ => .node kind (slotContent slots)

def itemContents : List Value → List Content
  | [] => []
  | v :: rest => content v :: itemContents rest

/-- What some slots say at a place. An empty slot and one beyond the end say null. -/
def slotContent : List (Option Value) → Nat → Content
  | [], _ => .plain .null
  | none :: _, 0 => .plain .null
  | some v :: _, 0 => content v
  | _ :: rest, place + 1 => slotContent rest place

end

private theorem slotContent_cons_zero (slot : Option Value) (rest : List (Option Value)) :
    slotContent (slot :: rest) 0 = (reading slot).content := by
  cases slot <;> rfl

private theorem slotContent_cons_succ (slot : Option Value) (rest : List (Option Value))
    (place : Nat) : slotContent (slot :: rest) (place + 1) = slotContent rest place := by
  cases slot <;> rfl

open Content (EqualBy equalBy_plain_iff equalBy_list_iff equalBy_node_iff)

private theorem equalBy_null_left_iff (v : Value) :
    EqualBy Plain.SameTypeAlike (.plain .null) v.content ↔ v.isNull = true := by
  rw [← equal_null_left]
  cases v with
  | plain tag value => rw [content, equalBy_plain_iff, null, equal, Plain.equal_iff_alike]; rfl
  | _ =>
    constructor
    · intro equal
      cases equal
    · intro equal
      cases equal

private theorem equalBy_null_right_iff (v : Value) :
    EqualBy Plain.SameTypeAlike v.content (.plain .null) ↔ v.isNull = true := by
  rw [← equal_null_right]
  cases v with
  | plain tag value => rw [content, equalBy_plain_iff, null, equal, Plain.equal_iff_alike]; rfl
  | _ =>
    constructor
    · intro equal
      cases equal
    · intro equal
      cases equal

/-- What holds of all places holds of the first slot and of the others. -/
theorem forall_slotContent_cons {P : Content → Content → Prop} {x y : Option Value}
    {xs ys : List (Option Value)} :
    (∀ place, P (slotContent (x :: xs) place) (slotContent (y :: ys) place)) ↔
      P (reading x).content (reading y).content ∧
        ∀ place, P (slotContent xs place) (slotContent ys place) := by
  rw [← Nat.and_forall_add_one, slotContent_cons_zero, slotContent_cons_zero]
  simp only [slotContent_cons_succ]

/-- Slots say null everywhere exactly if they all read as null. -/
theorem forall_slotContent_iff_isNull (P : Content → Prop)
    (isNull : ∀ v : Value, P v.content ↔ v.isNull = true) (slots : List (Option Value)) :
    (∀ place, P (slotContent slots place)) ↔
      slots.all (fun slot => (reading slot).isNull) = true := by
  induction slots with
  | nil =>
    have beyond : P (.plain .null) := (isNull null).mpr rfl
    simp only [slotContent, beyond, implies_true, List.all_nil]
  | cons slot rest ih =>
    rw [← Nat.and_forall_add_one, List.all_cons, Bool.and_eq_true, ← ih, slotContent_cons_zero,
      isNull]
    simp only [slotContent_cons_succ]

mutual

/-- Values are equal exactly if their contents are. -/
theorem equal_iff_content (v w : Value) :
    v.equal w = true ↔ EqualBy Plain.SameTypeAlike v.content w.content := by
  cases v with
  | plain tag a =>
    cases w with
    | plain tag' b => rw [content, content, equalBy_plain_iff]; exact Plain.equal_iff_alike
    | _ => exact ⟨nofun, nofun⟩
  | list tag xs =>
    cases w with
    | list tag' ys => rw [content, content, equalBy_list_iff]; exact equalItems_iff_content xs ys
    | _ => exact ⟨nofun, nofun⟩
  | node tag kind xs marks =>
    cases w with
    | node tag' kind' ys marks' =>
      rw [content, content, equalBy_node_iff, equal, Bool.and_eq_true, beq_iff_eq,
        equalSlots_iff_content xs ys]
    | _ => exact ⟨nofun, nofun⟩
termination_by structural v

private theorem equalItems_iff_content (xs ys : List Value) :
    equalItems xs ys = true ↔
      List.Forall₂ (EqualBy Plain.SameTypeAlike) (itemContents xs) (itemContents ys) := by
  cases xs with
  | nil =>
    cases ys with
    | nil => simp [equalItems, itemContents]
    | cons y ys => simp [equalItems, itemContents]
  | cons x xs =>
    cases ys with
    | nil => simp [equalItems, itemContents]
    | cons y ys =>
      rw [equalItems, itemContents, itemContents, Bool.and_eq_true, List.forall₂_cons,
        equal_iff_content x y, equalItems_iff_content xs ys]
termination_by structural xs

private theorem equalSlots_iff_content (xs ys : List (Option Value)) :
    equalSlots xs ys = true ↔
      ∀ place, EqualBy Plain.SameTypeAlike (slotContent xs place) (slotContent ys place) := by
  cases xs with
  | nil =>
    rw [equalSlots, ← forall_slotContent_iff_isNull _ equalBy_null_left_iff ys]
    rfl
  | cons x xs =>
    cases ys with
    | nil =>
      rw [equalSlots_nil_right, ← forall_slotContent_iff_isNull
        (EqualBy Plain.SameTypeAlike · (.plain .null)) equalBy_null_right_iff]
      rfl
    | cons y ys =>
      rw [equalSlots_cons_cons, Bool.and_eq_true, forall_slotContent_cons,
        equalSlots_iff_content xs ys]
      refine and_congr_left' ?_
      cases x with
      | none =>
        rw [reading, Option.getD_none, equal_null_left]
        exact (equalBy_null_left_iff _).symm
      | some x => exact equal_iff_content x (reading y)
termination_by structural xs

end

/-! ### Paths to a NaN -/

/-- The part of a value to which a path leads, from place to place through lists and slots. -/
def at? : Value → List Nat → Option Value
  | v, [] => some v
  | plain .., _ :: _ => none
  | list _ items, place :: path => items[place]?.bind fun item => item.at? path
  | node _ _ slots _, place :: path => slots[place]?.join.bind fun held => held.at? path

private theorem at?_list_cons {tag place : Nat} {items path : List _} {item : Value}
    (inside : items[place]? = some item) :
    (list tag items).at? (place :: path) = item.at? path := by
  rw [at?, inside, Option.bind_some]

private theorem at?_node_cons {tag place : Nat} {kind : Kind} {slots : List (Option Value)}
    {marks : List (String × Value)} {held : Value} {path : List Nat}
    (inside : slots[place]? = some (some held)) :
    (node tag kind slots marks).at? (place :: path) = held.at? path := by
  rw [at?, inside, Option.join_some, Option.bind_some]

private theorem nanFreeItems_iff {items : List Value} :
    nanFreeItems items = true ↔ ∀ item ∈ items, item.nanFree = true := by
  induction items with
  | nil => simp [nanFreeItems]
  | cons item rest ih => simp [nanFreeItems, ih]

private theorem nanFreeSlots_iff {slots : List (Option Value)} :
    nanFreeSlots slots = true ↔ ∀ held, some held ∈ slots → held.nanFree = true := by
  induction slots with
  | nil => simp [nanFreeSlots]
  | cons slot rest ih => cases slot <;> simp [nanFreeSlots, ih]

/-- No path through a value that is free of NaN leads to one. -/
theorem isNaN_of_nanFree {v : Value} (free : v.nanFree = true) {path : List Nat} {tag : Nat}
    {value : Plain} (found : v.at? path = some (plain tag value)) : value.isNaN = false := by
  induction path generalizing v with
  | nil =>
    obtain rfl : v = plain tag value := Option.some.inj found
    simpa only [nanFree, Bool.not_eq_true'] using free
  | cons place path ih =>
    cases v with
    | plain => simp [at?] at found
    | list tag items =>
      obtain ⟨item, inside, below⟩ := Option.bind_eq_some_iff.mp found
      exact ih (nanFreeItems_iff.mp free item (List.mem_of_getElem? inside)) below
    | node tag kind slots marks =>
      obtain ⟨held, inside, below⟩ := Option.bind_eq_some_iff.mp found
      have filled : some held ∈ slots := List.mem_of_getElem? (Option.join_eq_some_iff.mp inside)
      exact ih (nanFreeSlots_iff.mp free held filled) below

/-- Induction over the items of lists and the slots of nodes. -/
@[elab_as_elim] theorem parts_induction {motive : Value → Prop}
    (plain : ∀ tag value, motive (plain tag value))
    (list : ∀ tag items, (∀ item ∈ items, motive item) → motive (list tag items))
    (node : ∀ tag kind slots marks, (∀ held, some held ∈ slots → motive held) →
      motive (node tag kind slots marks)) (v : Value) : motive v := by
  match v with
  | .plain tag value => exact plain tag value
  | .list tag items =>
    refine list tag items fun item inside => ?_
    have smaller : sizeOf item < sizeOf items := List.sizeOf_lt_of_mem inside
    have less : sizeOf item < sizeOf (Value.list tag items) := by
      simp only [Value.list.sizeOf_spec]
      omega
    exact parts_induction plain list node item
  | .node tag kind slots marks =>
    refine node tag kind slots marks fun held inside => ?_
    have smaller : 1 + sizeOf held < sizeOf slots := List.sizeOf_lt_of_mem inside
    have less : sizeOf held < sizeOf (Value.node tag kind slots marks) := by
      simp only [Value.node.sizeOf_spec]
      omega
    exact parts_induction plain list node held
termination_by sizeOf v

/-- A value through which no path leads to a NaN is free of them. -/
theorem nanFree_of_paths {v : Value} (absent : ∀ path tag value,
    v.at? path = some (plain tag value) → value.isNaN = false) : v.nanFree = true := by
  induction v using parts_induction with
  | plain tag value => rw [nanFree, absent [] tag value rfl, Bool.not_false]
  | list tag items ih =>
    rw [nanFree, nanFreeItems_iff]
    intro item inside
    obtain ⟨place, present⟩ := List.mem_iff_getElem?.mp inside
    apply ih item inside
    intro path tag' value found
    exact absent (place :: path) tag' value ((at?_list_cons present).trans found)
  | node tag kind slots marks ih =>
    rw [nanFree, nanFreeSlots_iff]
    intro held inside
    obtain ⟨place, present⟩ := List.mem_iff_getElem?.mp inside
    apply ih held inside
    intro path tag' value found
    exact absent (place :: path) tag' value ((at?_node_cons present).trans found)

/-- Equality is symmetric and transitive, and a value equals itself exactly if no path leads to a
NaN in it. Two values are equal exactly if they say the same: without marks, with null for what is
absent, and with plain values counted as equal if they are of one type and alike. -/
theorem equal_partial_equivalence (x y z : Value) :
    x.equal y = y.equal x ∧
      (x.equal y = true → y.equal z = true → x.equal z = true) ∧
      (x.equal x = true ↔
        ∀ path tag value, x.at? path = some (plain tag value) → value.isNaN = false) ∧
      (x.equal y = true ↔ EqualBy Plain.SameTypeAlike x.content y.content) := by
  refine ⟨equal_comm x y, equal_trans, ?_, equal_iff_content x y⟩
  rw [equal_self]
  constructor
  · intro free path tag value found
    exact isNaN_of_nanFree free found
  · exact nanFree_of_paths

/-- A name without a context equals one whose context is null, wherever the two stand. -/
example : (node 0 .name [some (str "f"), none] [("lineno", int 1)]).equal
    (node 7 .name [some (str "f"), some null] [("lineno", int 2)]) = true := by decide

end Value

end CallSites.Tree
