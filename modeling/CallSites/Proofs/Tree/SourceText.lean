import CallSites.Proofs.Tree.Printer.Expression
import CallSites.Proofs.Tree.Respacing

/-! # The text of an expression

The source text of an expression depends on its shape and on what it shares: the level that one
place asks for a loose expression stays with that object, and counts at its other places if these
ask for none. So respaced expressions have the same text if their loose parts are shared alike,
which they are if neither repeats any.
-/

namespace CallSites.Tree.Value

/-- Whether a value is made of nodes that belong in expressions. -/
def isPrintable (v : Value) : Bool := v.nodes.all belongsInExpressions

/-- Whether the loose expressions of two respaced trees are shared alike: one is the same object as
another node in both trees or in neither. -/
def SharedAlike (v w : Value) : Prop :=
  ∀ one ∈ v.nodes.zip w.nodes, ∀ other ∈ v.nodes.zip w.nodes, one.1.isLoose = true →
    one.1.same other.1 = one.2.same other.2

instance (v w : Value) : Decidable (SharedAlike v w) :=
  inferInstanceAs (Decidable (∀ one ∈ v.nodes.zip w.nodes, ∀ other ∈ v.nodes.zip w.nodes, _ → _))

/-- Respaced expressions that share alike have the same text. -/
theorem Respaced.source_eq {v w : Value} (respaced : Respaced v w)
    (printable : v.isPrintable = true) (printable' : w.isPrintable = true)
    (shared : SharedAlike v w) : v.source = w.source := by
  have corresponds : Printer.Corresponds fun x y => (x, y) ∈ v.nodes.zip w.nodes := by
    refine ⟨fun member => (respaced.of_mem_zip member).sameShape, ?_, ?_, ?_⟩
    · intro x y member
      obtain ⟨inside, inside'⟩ := List.of_mem_zip member
      exact ⟨List.all_eq_true.mp printable x inside, List.all_eq_true.mp printable' y inside'⟩
    · intro x y member
      have length := (respaced.of_mem_zip member).children.length_eq
      exact List.forall₂_iff_zip.mpr ⟨length, respaced.mem_zip_of_children member⟩
    · intro x y x' y' member member' loose
      exact shared _ member _ member' loose
  apply Printer.source_eq corresponds
  rw [respaced.zip_nodes]
  exact List.mem_cons_self ..

/-- Whether no loose expression occurs twice in a tree. -/
def LooseOnce (v : Value) : Prop :=
  v.nodes.Pairwise fun x y =>
    x.isLoose = true ∨ y.isLoose = true → x.same y = false ∧ y.same x = false

instance (v : Value) : Decidable v.LooseOnce := inferInstanceAs (Decidable (List.Pairwise _ _))

/-- Where nothing is shared in one tree, and no loose expression in the other, both share alike. -/
theorem sharedAlike_of_once {v w : Value} (length : v.nodes.length = w.nodes.length)
    (once : v.LooseOnce)
    (apart : w.nodes.Pairwise fun x y => x.same y = false ∧ y.same x = false) :
    SharedAlike v w := by
  have firsts : (v.nodes.zip w.nodes).map Prod.fst = v.nodes :=
    List.map_fst_zip (Nat.le_of_eq length)
  have seconds : (v.nodes.zip w.nodes).map Prod.snd = w.nodes :=
    List.map_snd_zip (Nat.le_of_eq length.symm)
  rw [LooseOnce, ← firsts, List.pairwise_map] at once
  rw [← seconds, List.pairwise_map] at apart
  have forward := (once.and apart).imp (S := fun one other =>
    one.1.isLoose = true → one.1.same other.1 = one.2.same other.2) <| by
    intro one other both loose
    rw [(both.1 (.inl loose)).1, both.2.1]
  have backward := (once.and apart).imp (S := flip fun one other =>
    one.1.isLoose = true → one.1.same other.1 = one.2.same other.2) <| by
    intro one other both loose
    rw [(both.1 (.inr loose)).2, both.2.2]
  intro one member other member'
  refine List.Pairwise.forall_of_forall_of_flip ?_ forward backward member member'
  intro both _ _
  rw [same_self, same_self]

@[simp] theorem isFlat_shape (v : Value) : v.shape.isFlat = v.isFlat := by
  cases v with
  | list tag items =>
    rw [shape, isFlat, isFlat]
    induction items with
    | nil => rfl
    | cons item rest ih =>
      rw [shapeItems, List.all_cons, List.all_cons, ih]
      cases item <;> rfl
  | _ => rfl

private theorem all_isFlat_of_shape {xs ys : List (Option Value)}
    (same : List.Forall₂ (Option.Rel SameShape) xs ys)
    (flat : xs.all (fun x => x.all isFlat) = true) :
    ys.all (fun y => y.all isFlat) = true := by
  induction same with
  | nil => rfl
  | cons head _ ih =>
    simp only [List.all_cons, Bool.and_eq_true] at flat ⊢
    refine ⟨?_, ih flat.2⟩
    cases head with
    | none => rfl
    | some both =>
      rw [Option.all_some, ← eq_of_shape isFlat_shape both]
      exact flat.1

/-- A copy of a node that belongs in expressions belongs there too. -/
theorem belongsInExpressions_copied {next : Nat} {v original : Value}
    (same : SameShape v (copied next original)) (belongs : v.belongsInExpressions = true) :
    (copied next original).belongsInExpressions = true := by
  cases v with
  | node tag kind slots marks =>
    cases original with
    | node tag' kind' slots' marks' =>
      simp only [belongsInExpressions, copied, purify, retag, SameShape, shape, node.injEq,
        Bool.and_eq_true, List.all_nil] at same belongs ⊢
      obtain ⟨-, rfl, sameSlots, -⟩ := same
      have flat := all_isFlat_of_shape (forall₂_of_shapeSlots sameSlots) belongs.1.2
      exact ⟨⟨belongs.1.1, flat⟩, trivial⟩
    | _ => simp [SameShape, shape, copied, purify, retag] at same
  | _ => cases belongs

theorem isNode_of_isPrintable {v : Value} (printable : v.isPrintable = true) : v.isNode = true := by
  have belongs := List.all_eq_true.mp printable v (self_mem_nodes v)
  cases v with
  | node => rfl
  | _ => cases belongs

end CallSites.Tree.Value
