import CallSites.Proofs.Tree.Depth
import CallSites.Proofs.Tree.WellFormed
import CallSites.Tree.Printer.Output

/-! # Printing runs that agree

Two trees of one shape may bear other positions and be made of other objects. Their printing runs
agree step by step as long as the nodes that correspond to each other do not differ in what printing
looks at: beyond the shape, that is only which nodes are one object, since a level that was asked
for a node stays with it. Levels matter for loose expressions alone, which may need parentheses.

`Corresponds` says when a relation between nodes is such a correspondence, `Aligned` extends it to
all values, and `Agree` relates two steps: from outputs that agree they end with the same fault, or
with related results and outputs that agree again.
-/

namespace CallSites.Tree

/-- Kinds of expressions that are put in parentheses where their place asks for a tighter level. All
others are printed alike everywhere. -/
def Kind.isLoose : Kind → Bool
  | .tuple | .binOp | .unaryOp | .boolOp | .compare | .ifExp | .lambda | .namedExpr | .await
  | .yield | .yieldFrom => true
  | _ => false

/-- Kinds of nodes that expressions are made of. -/
def Kind.inExpressions (kind : Kind) : Bool :=
  [.anyExpression, .anyContext, .anyBoolOp, .anyOperator, .anyUnaryOp, .anyCompareOp,
    .comprehension, .arguments, .arg, .keyword].any fun root => within root kind

namespace Value

/-- The names of the fields from which expressions are printed. -/
@[simp] def printedFields : List String :=
  ["annotation", "arg", "args", "attr", "body", "comparators", "conversion", "defaults", "elt",
    "elts", "format_spec", "func", "generators", "id", "ifs", "is_async", "iter", "key", "keys",
    "keywords", "kind", "kw_defaults", "kwarg", "kwonlyargs", "left", "lower", "op", "operand",
    "ops", "orelse", "posonlyargs", "right", "slice", "step", "target", "test", "upper", "value",
    "values", "vararg"]

def isLoose (v : Value) : Bool := v.kind?.any Kind.isLoose

/-- Whether a value is no list that holds lists again. -/
def isFlat : Value → Bool
  | list _ items => items.all fun item => item.items?.isNone
  | _ => true

/-- Whether a value is a node that expressions are made of: its fields hold no lists of lists, and
no mark bears the name of a field that another kind of node is printed from. -/
def belongsInExpressions : Value → Bool
  | node _ kind slots marks => kind.inExpressions && slots.all (fun slot => slot.all isFlat) &&
      marks.all fun mark => decide (mark.1 ∉ printedFields)
  | _ => false

private theorem same_eq_beq_tag {v w : Value} (left : v.isNode = true) (right : w.isNode = true) :
    v.same w = (v.tag == w.tag) := by
  cases v with
  | node =>
    cases w with
    | node => rfl
    | _ => cases right
  | _ => cases left

private theorem lookup_printedFields {marks : List (String × Value)} {name : String}
    (foreign : marks.all (fun mark => decide (mark.1 ∉ printedFields)) = true)
    (printed : name ∈ printedFields) : marks.lookup name = none := by
  rw [List.lookup_eq_none_iff]
  intro mark member
  have other := of_decide_eq_true (List.all_eq_true.mp foreign mark member)
  rw [bne_iff_ne]
  rintro rfl
  exact other printed

end Value

namespace Printer

open Value

/-- A relation between nodes of two expressions that printing cannot tell apart. -/
structure Corresponds (N : Value → Value → Prop) : Prop where
  shape : ∀ {v w}, N v w → SameShape v w
  belongs : ∀ {v w}, N v w → v.belongsInExpressions = true ∧ w.belongsInExpressions = true
  children : ∀ {v w}, N v w → List.Forall₂ N v.children w.children
  shared : ∀ {v w x y}, N v w → N x y → v.isLoose = true → v.same x = w.same y

/-- Values of one shape whose nodes correspond to each other. -/
structure Aligned (N : Value → Value → Prop) (v w : Value) : Prop where
  shape : SameShape v w
  nodes : List.Forall₂ N (slotChildren (some v)) (slotChildren (some w))
  flat : v.isFlat = true

section

variable {N : Value → Value → Prop} {v w : Value}

theorem Aligned.plain (tag tag' : Nat) (content : Plain) :
    Aligned N (.plain tag content) (.plain tag' content) :=
  ⟨rfl, .nil, rfl⟩

theorem Aligned.related (aligned : Aligned N v w) (isNode : v.isNode = true) : N v w := by
  have same := eq_of_shape isNode_shape aligned.shape
  cases v with
  | node =>
    cases w with
    | node =>
      cases aligned.nodes with
      | cons head => exact head
    | _ => cases same
  | _ => cases isNode

/-- Items of aligned lists are aligned. -/
theorem forall₂_aligned {xs ys : List Value} (same : List.Forall₂ SameShape xs ys)
    (nodes : List.Forall₂ N (xs.filter isNode) (ys.filter isNode))
    (flat : xs.all (fun item => item.items?.isNone) = true) : List.Forall₂ (Aligned N) xs ys := by
  induction same with
  | nil => exact .nil
  | @cons x y xs ys head _ ih =>
    simp only [List.all_cons, Bool.and_eq_true] at flat
    have both := eq_of_shape isNode_shape head
    cases x with
    | plain tag content =>
      cases y with
      | plain tag' content' => exact .cons ⟨head, .nil, rfl⟩ (ih nodes flat.2)
      | _ => simp [SameShape, Value.shape] at head
    | list => simp [items?] at flat
    | node =>
      cases y with
      | node =>
        simp only [List.filter_cons, isNode, if_true] at nodes
        cases nodes with
        | cons first rest => exact .cons ⟨head, .cons first .nil, rfl⟩ (ih rest flat.2)
      | _ => cases both

theorem Aligned.items {tag tag' : Nat} {xs ys : List Value}
    (aligned : Aligned N (.list tag xs) (.list tag' ys)) : List.Forall₂ (Aligned N) xs ys := by
  have same := aligned.shape
  simp only [SameShape, Value.shape, Value.list.injEq, true_and] at same
  exact forall₂_aligned (forall₂_of_shapeItems same) aligned.nodes aligned.flat

/-- Aligned values are one plain value, or lists with aligned items, or nodes of one kind that
correspond to each other. -/
theorem Aligned.cases (aligned : Aligned N v w) :
    (∃ tag tag' content, v = .plain tag content ∧ w = .plain tag' content) ∨
      (∃ tag tag' xs ys, v = .list tag xs ∧ w = .list tag' ys ∧ List.Forall₂ (Aligned N) xs ys) ∨
      ∃ tag tag' kind slots slots' marks marks', v = .node tag kind slots marks ∧
        w = .node tag' kind slots' marks' ∧ N v w := by
  have same := aligned.shape
  cases v with
  | plain tag content =>
    cases w with
    | plain tag' content' =>
      simp only [SameShape, Value.shape, Value.plain.injEq, true_and] at same
      exact .inl ⟨tag, tag', content, rfl, by rw [same]⟩
    | _ => simp [SameShape, Value.shape] at same
  | list tag xs =>
    cases w with
    | list tag' ys => exact .inr (.inl ⟨tag, tag', xs, ys, rfl, rfl, aligned.items⟩)
    | _ => simp [SameShape, Value.shape] at same
  | node tag kind slots marks =>
    cases w with
    | node tag' kind' slots' marks' =>
      have related := aligned.related rfl
      simp only [SameShape, Value.shape, Value.node.injEq] at same
      obtain ⟨-, rfl, -⟩ := same
      exact .inr (.inr ⟨tag, tag', kind, slots, slots', marks, marks', rfl, rfl, related⟩)
    | _ => simp [SameShape, Value.shape] at same

/-- Where the nodes in two lists of slots correspond in order, the slots are aligned. -/
theorem forall₂_aligned_slots {xs ys : List (Option Value)}
    (same : List.Forall₂ (Option.Rel SameShape) xs ys)
    (nodes : List.Forall₂ N (xs.flatMap slotChildren) (ys.flatMap slotChildren))
    (flat : xs.all (fun slot => slot.all isFlat) = true) :
    List.Forall₂ (Option.Rel (Aligned N)) xs ys := by
  induction same with
  | nil => exact .nil
  | @cons x y xs ys head _ ih =>
    rw [List.flatMap_cons, List.flatMap_cons] at nodes
    have length := (slotChildren_of_shape head).length_eq
    have first := List.forall₂_take_append _ _ _ nodes
    have rest := List.forall₂_drop_append _ _ _ nodes
    rw [← length, List.take_left] at first
    rw [← length, List.drop_left] at rest
    simp only [List.all_cons, Bool.and_eq_true] at flat
    refine .cons ?_ (ih rest flat.2)
    cases head with
    | none => exact .none
    | some head => exact .some ⟨head, first, flat.1⟩

variable (corresponds : Corresponds N)

include corresponds

theorem Corresponds.isNode (related : N v w) : v.isNode = true ∧ w.isNode = true := by
  have belongs := (corresponds.belongs related).1
  have same := eq_of_shape isNode_shape (corresponds.shape related)
  cases v with
  | node => exact ⟨rfl, same.symm⟩
  | _ => cases belongs

theorem Corresponds.aligned (related : N v w) : Aligned N v w := by
  obtain ⟨isNode, isNode'⟩ := corresponds.isNode related
  cases v with
  | node =>
    cases w with
    | node => exact ⟨corresponds.shape related, .cons related .nil, rfl⟩
    | _ => cases isNode'
  | _ => cases isNode

/-- Aligned values hold aligned values in every field. -/
theorem Corresponds.attr? (aligned : Aligned N v w) {name : String}
    (printed : name ∈ printedFields) : Option.Rel (Aligned N) (v.attr? name) (w.attr? name) := by
  obtain ⟨_, _, _, rfl, rfl⟩ | ⟨_, _, _, _, rfl, rfl, -⟩ |
    ⟨tag, tag', kind, slots, slots', marks, marks', rfl, rfl, related⟩ := aligned.cases
  · exact .none
  · exact .none
  · have same := corresponds.shape related
    have belongs := corresponds.belongs related
    simp only [SameShape, Value.shape, Value.node.injEq, true_and] at same
    simp only [belongsInExpressions, Bool.and_eq_true] at belongs
    obtain ⟨⟨⟨-, flat⟩, foreign⟩, -, foreign'⟩ := belongs
    have aligned := forall₂_aligned_slots (forall₂_of_shapeSlots same.1)
      (corresponds.children related) flat
    simp only [Value.attr?]
    split
    · exact slot?_rel aligned _ _
    · rw [lookup_printedFields foreign printed, lookup_printedFields foreign' printed]
      exact .none

/-- An attribute that is not there reads as null in both. -/
theorem Corresponds.attr (aligned : Aligned N v w) {name : String}
    (printed : name ∈ printedFields) : SameShape (v.attr name) (w.attr name) := by
  have held := corresponds.attr? aligned printed
  unfold Value.attr
  generalize v.attr? name = slot, w.attr? name = slot' at held
  cases held with
  | none => rfl
  | some both => exact both.shape

end

/-- Outputs that differ at most in the objects to which their levels belong. -/
structure OutputsAgree (N : Value → Value → Prop) (out out' : Output) : Prop where
  pieces : out.pieces = out'.pieces
  left : out.left = out'.left
  plainQuotes : out.plainQuotes = out'.plainQuotes
  levels : ∀ {v w}, N v w → v.isLoose = true →
    out.levels.lookup v.tag = out'.levels.lookup w.tag

/-- How two runs end: with the same fault, or with related results. -/
inductive EndAlike {α : Type} (N : Value → Value → Prop) (A : α → α → Prop) :
    Except Unprintable (α × Output) → Except Unprintable (α × Output) → Prop where
  | fault (why : Unprintable) : EndAlike N A (.error why) (.error why)
  | done {result result' : α} {out out' : Output} (related : A result result')
    (outputs : OutputsAgree N out out') : EndAlike N A (.ok (result, out)) (.ok (result', out'))

/-- Steps that end alike wherever their outputs agree. -/
def Agree {α : Type} (N : Value → Value → Prop) (A : α → α → Prop) (step step' : Print α) : Prop :=
  ∀ out out', OutputsAgree N out out' → EndAlike N A (step.run out) (step'.run out')

section

variable {N : Value → Value → Prop} {α β : Type} {A : α → α → Prop} {B : β → β → Prop}

theorem Agree.pure {result result' : α} (related : A result result') :
    Agree N A (pure result) (pure result') :=
  fun _ _ outputs => .done related outputs

theorem Agree.throw (why : Unprintable) : Agree N A (throw why) (throw why) :=
  fun _ _ _ => .fault why

theorem Agree.bind {step step' : Print α} {next next' : α → Print β} (first : Agree N A step step')
    (rest : ∀ result result', A result result' → Agree N B (next result) (next' result')) :
    Agree N B (step >>= next) (step' >>= next') := by
  intro out out' outputs
  have ends := first out out' outputs
  rw [StateT.run_bind, StateT.run_bind]
  generalize step.run out = ended, step'.run out' = ended' at ends
  cases ends with
  | fault why => exact .fault why
  | done related outputs => exact rest _ _ related _ _ outputs

theorem Agree.ite {c : Prop} [Decidable c] {left left' right right' : Print α}
    (first : Agree N A left left') (second : Agree N A right right') :
    Agree N A (if c then left else right) (if c then left' else right') := by
  split
  · exact first
  · exact second

theorem Agree.get : Agree N (OutputsAgree N) get get :=
  fun _ _ outputs => .done outputs outputs

theorem Agree.set {out out' : Output} (outputs : OutputsAgree N out out') :
    Agree N Eq (set out) (set out') :=
  fun _ _ _ => .done rfl outputs

/-- A first step whose result is not used. -/
theorem Agree.andThen {step step' : Print Unit} {next next' : Print β}
    (first : Agree N Eq step step') (rest : Agree N B next next') :
    Agree N B (step >>= fun _ => next) (step' >>= fun _ => next') :=
  first.bind fun _ _ _ => rest

theorem Agree.modify {change change' : Output → Output}
    (keeps : ∀ out out', OutputsAgree N out out' → OutputsAgree N (change out) (change' out')) :
    Agree N Eq (modify change) (modify change') :=
  fun out out' outputs => .done rfl (keeps out out' outputs)

theorem Agree.forM {R : β → β → Prop} {step step' : β → Print Unit} {xs ys : List β}
    (related : List.Forall₂ R xs ys)
    (each : ∀ x y, R x y → Agree N Eq (step x) (step' y)) :
    Agree N Eq (xs.forM step) (ys.forM step') := by
  induction related with
  | nil => exact .pure rfl
  | cons head _ ih => exact (each _ _ head).andThen ih

theorem Agree.mapM {R : β → β → Prop} {step step' : β → Print α} {xs ys : List β}
    (related : List.Forall₂ R xs ys)
    (each : ∀ x y, R x y → Agree N Eq (step x) (step' y)) :
    Agree N Eq (xs.mapM step) (ys.mapM step') := by
  induction related with
  | nil => exact .pure rfl
  | cons head _ ih =>
    rw [List.mapM_cons, List.mapM_cons]
    refine (each _ _ head).bind ?_
    rintro first _ rfl
    refine ih.bind ?_
    rintro rest _ rfl
    exact .pure rfl

/-! ### The steps of which all printing is made -/

theorem agree_write (text : String) : Agree N Eq (write text) (write text) :=
  .modify fun _ _ outputs => { outputs with pieces := congrArg (.text text :: ·) outputs.pieces }

theorem agree_writeCodes (codes : List Nat) : Agree N Eq (writeCodes codes) (writeCodes codes) :=
  .modify fun _ _ outputs =>
    { outputs with pieces := congrArg (.ofCodes codes :: ·) outputs.pieces }

theorem agree_writeIf (needed : Bool) (text : String) :
    Agree N Eq (writeIf needed text) (writeIf needed text) :=
  .ite (agree_write text) (.pure rfl)

theorem agree_require (holds : Bool) : Agree N Eq (require holds) (require holds) :=
  .ite (.pure rfl) (.throw _)

theorem agree_joined (pieces : List Piece) : Agree N Eq (joined pieces) (joined pieces) := by
  unfold joined
  split
  · exact .pure rfl
  · exact .throw _

theorem agree_joinedCodes (pieces : List Piece) :
    Agree N Eq (joinedCodes pieces) (joinedCodes pieces) := by
  unfold joinedCodes
  split
  · exact .pure rfl
  · exact .throw _

theorem agree_buffered {step step' : Print Unit} (agree : Agree N Eq step step') :
    Agree N Eq (buffered step) (buffered step') := by
  refine Agree.get.bind ?_
  intro before before' outer
  have emptied : OutputsAgree N { before with pieces := [], left := none }
    { before' with pieces := [], left := none } := { outer with pieces := rfl, left := rfl }
  refine (Agree.set emptied).andThen (agree.andThen (Agree.get.bind ?_))
  intro after after' inner
  have restored : OutputsAgree N { after with pieces := before.pieces, left := before.left }
      { after' with pieces := before'.pieces, left := before'.left } :=
    { inner with pieces := outer.pieces, left := outer.left }
  refine (Agree.set restored).andThen ?_
  rw [inner.left, inner.pieces]
  exact .pure rfl

theorem agree_afresh {step step' : Print Unit} (agree : Agree N Eq step step') :
    Agree N Eq (afresh step) (afresh step') := by
  refine (Agree.modify ?_).andThen (agree.andThen ?_)
  · intro out out' outputs
    exact { outputs with
      pieces := rfl, left := by rw [outputs.left, outputs.pieces] }
  · refine Agree.get.bind ?_
    intro out out' outputs
    rw [outputs.pieces]
    exact (agree_joinedCodes _).bind fun _ _ _ => .pure rfl

theorem agree_enclose (first last : String) {step step' : Print Unit}
    (agree : Agree N Eq step step') :
    Agree N Eq (enclose first last step) (enclose first last step') :=
  (agree_write first).andThen (agree.andThen (agree_write last))

theorem agree_parenthesizeIf (needed : Bool) {step step' : Print Unit}
    (agree : Agree N Eq step step') :
    Agree N Eq (parenthesizeIf needed step) (parenthesizeIf needed step') := by
  cases needed with
  | false => exact agree
  | true => exact agree_enclose _ _ agree

variable {v w : Value}

private theorem ofValue_shape (v : Value) : Piece.ofValue v.shape = Piece.ofValue v := by
  cases v with
  | plain tag content => cases content <;> rfl
  | _ => rfl

theorem agree_writeValue (aligned : Aligned N v w) : Agree N Eq (writeValue v) (writeValue w) := by
  refine .modify fun out out' outputs => { outputs with pieces := ?_ }
  rw [eq_of_shape ofValue_shape aligned.shape, outputs.pieces]

theorem agree_textOf (aligned : Aligned N v w) : Agree N Eq (textOf v) (textOf w) := by
  rw [textOf, textOf, eq_of_shape ofValue_shape aligned.shape]
  exact agree_joined _

theorem agree_operator (table : Kind → Option α) (aligned : Aligned N v w) :
    Agree N Eq (operator table v) (operator table w) := by
  unfold operator
  rw [eq_of_shape kind?_shape aligned.shape]
  split
  · exact .pure rfl
  · exact .throw _

theorem agree_elements (aligned : Aligned N v w) :
    Agree N (List.Forall₂ (Aligned N)) (elements v) (elements w) := by
  obtain ⟨tag, tag', content, rfl, rfl⟩ | ⟨_, _, _, _, rfl, rfl, items⟩ |
    ⟨_, _, _, _, _, _, _, rfl, rfl, -⟩ := aligned.cases
  · simp only [elements, Value.elements?]
    cases content.elements? with
    | none => exact .throw _
    | some contents =>
      refine .pure ?_
      rw [List.forall₂_map_left_iff, List.forall₂_map_right_iff, List.forall₂_same]
      exact fun _ _ => .plain ..
  · exact .pure items
  · exact .throw _

theorem agree_listItems (aligned : Aligned N v w) :
    Agree N (List.Forall₂ (Aligned N)) (listItems v) (listItems w) := by
  obtain ⟨_, _, _, rfl, rfl⟩ | ⟨_, _, _, _, rfl, rfl, items⟩ |
    ⟨_, _, _, _, _, _, _, rfl, rfl, -⟩ := aligned.cases
  · exact .throw _
  · exact .pure items
  · exact .throw _

private theorem agree_separated (separator : String) {step step' : Value → Print Unit}
    (each : ∀ x y, Aligned N x y → Agree N Eq (step x) (step' y)) {xs ys : List Value}
    (related : List.Forall₂ (Aligned N) xs ys) :
    Agree N Eq (separated separator step xs) (separated separator step' ys) := by
  cases related with
  | nil => exact .pure rfl
  | cons head rest =>
    exact (each _ _ head).andThen
      (.forM rest fun x y aligned => (agree_write separator).andThen (each x y aligned))

theorem agree_commas {step step' : Value → Print Unit}
    (each : ∀ x y, Aligned N x y → Agree N Eq (step x) (step' y)) {xs ys : List Value}
    (related : List.Forall₂ (Aligned N) xs ys) : Agree N Eq (commas step xs) (commas step' ys) :=
  agree_separated ", " each related

theorem agree_tupleItems {step step' : Value → Print Unit}
    (each : ∀ x y, Aligned N x y → Agree N Eq (step x) (step' y)) {xs ys : List Value}
    (related : List.Forall₂ (Aligned N) xs ys) :
    Agree N Eq (tupleItems step xs) (tupleItems step' ys) := by
  cases related with
  | nil => exact agree_commas each .nil
  | cons head rest =>
    cases rest with
    | nil => exact (each _ _ head).andThen (agree_write ",")
    | cons next rest => exact agree_commas each (.cons head (.cons next rest))

variable (corresponds : Corresponds N)

include corresponds

theorem agree_attr {name : String} (aligned : Aligned N v w)
    (printed : name ∈ printedFields) :
    Agree N (Aligned N) (attr v name) (attr w name) := by
  have held := corresponds.attr? aligned printed
  unfold attr
  generalize v.attr? name = held', w.attr? name = held'' at held
  cases held with
  | none => exact .throw _
  | some both => exact .pure both

theorem agree_attrElements {name : String} (aligned : Aligned N v w)
    (printed : name ∈ printedFields) :
    Agree N (List.Forall₂ (Aligned N)) (attrElements v name) (attrElements w name) :=
  (agree_attr corresponds aligned printed).bind fun _ _ => agree_elements

theorem agree_ask (level : Level) (aligned : Aligned N v w) :
    Agree N Eq (ask level v) (ask level w) := by
  obtain ⟨_, _, _, rfl, rfl⟩ | ⟨_, _, _, _, rfl, rfl, -⟩ |
    ⟨tag, tag', kind, slots, slots', marks, marks', rfl, rfl, asked⟩ := aligned.cases
  · exact .pure rfl
  · exact .throw _
  · refine .modify fun out out' outputs => { outputs with levels := ?_ }
    intro x y related loose
    -- The level belongs to `x` in one run exactly if it belongs to `y` in the other.
    have shared : (x.tag == tag) = (y.tag == tag') := by
      have objects := corresponds.shared related asked loose
      obtain ⟨isNode, isNode'⟩ := corresponds.isNode related
      rwa [same_eq_beq_tag isNode rfl, same_eq_beq_tag isNode' rfl] at objects
    rw [List.lookup_cons, List.lookup_cons, shared, outputs.levels related loose]

theorem agree_asked (related : N v w) (loose : v.isLoose = true) :
    Agree N Eq (asked v) (asked w) := by
  obtain ⟨isNode, isNode'⟩ := corresponds.isNode related
  cases v with
  | node =>
    cases w with
    | node =>
      refine Agree.get.bind fun out out' outputs => ?_
      have level := outputs.levels related loose
      simp only [tag] at level
      rw [level]
      exact .pure rfl
    | _ => cases isNode'
  | _ => cases isNode

/-- A loose expression gets its parentheses in both runs or in none. -/
theorem agree_atLevel (level : Level) {step step' : Print Unit} (related : N v w)
    (loose : v.isLoose = true) (agree : Agree N Eq step step') :
    Agree N Eq (atLevel level v step) (atLevel level w step') := by
  refine (agree_asked corresponds related loose).bind ?_
  rintro required _ rfl
  exact agree_parenthesizeIf _ agree

end

end Printer

end CallSites.Tree
