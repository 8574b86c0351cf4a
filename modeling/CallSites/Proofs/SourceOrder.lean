import CallSites.Proofs.Positions
import Mathlib.Tactic.MkIffOfInductiveProp

/-! # Reading order

A scan reports calls in preorder, with the children of a node in the order of its fields. That is
the order in which the calls start in the text exactly if each node of the tree is laid out in the
order of its fields: it starts no later than the accepted calls below it, and those in an earlier
child start no later than those in a later one. Conditional expressions are not laid out like that,
since their test stands in the first field and in the middle of the text, so their calls are
reported in another order than they are written.
-/

namespace CallSites

open CallSites.Tree (TraversalKeys Value)

/-- Whether a location starts on an earlier line than another one, or further left on its line. -/
def Location.startsBefore (location other : Location) : Bool :=
  let number (position : Tree.Plain) : Extended := position.number?.getD .undefined
  (number location.line).below (number other.line) ||
    (number location.line).same (number other.line) &&
      (number location.column).below (number other.column)

private theorem Location.startsBefore_self (location : Location) :
    location.startsBefore location = false := by
  simp only [startsBefore, Extended.below_self, Bool.and_false, Bool.or_false]

/-- No match stands before one that starts earlier in the text. -/
def InSourceOrder (found : List Match) : Prop :=
  found.Pairwise fun earlier later => later.location.startsBefore earlier.location = false

instance (found : List Match) : Decidable (InSourceOrder found) :=
  inferInstanceAs (Decidable (List.Pairwise _ _))

namespace Scan

/-- Whether both are locations and the first starts before the second. -/
def startsBefore : Except Fault Location → Except Fault Location → Bool
  | .ok location, .ok other => location.startsBefore other
  | _, _ => false

/-- Whether the first of two calls that have locations starts before the second. -/
def callStartsBefore (call other : Value) : Bool :=
  startsBefore (Location.of call) (Location.of other)

private theorem callStartsBefore_self (call : Value) : callStartsBefore call call = false := by
  unfold callStartsBefore
  cases Location.of call with
  | ok location => exact location.startsBefore_self
  | error fault => rfl

/-- Two nodes that are not accepted calls in the wrong order. -/
def InOrder (matchers : List Matcher) (v w : Value) : Prop :=
  anyAccepts matchers v = true → anyAccepts matchers w = true → callStartsBefore w v = false

instance (matchers : List Matcher) (v w : Value) : Decidable (InOrder matchers v w) :=
  inferInstanceAs (Decidable (_ → _ → _))

/-- A node whose fields hold its accepted calls in the order of the text. -/
@[mk_iff]
structure LaidOut (matchers : List Matcher) (v : Value) : Prop where
  first : ∀ child ∈ v.children, ∀ w ∈ child.nodes, InOrder matchers v w
  parts : v.children.Pairwise fun earlier later =>
    ∀ w ∈ earlier.nodes, ∀ w' ∈ later.nodes, InOrder matchers w w'

instance (matchers : List Matcher) (v : Value) : Decidable (LaidOut matchers v) :=
  decidable_of_iff _ (laidOut_iff matchers v).symm

/-- The preorder of a tree respects an order exactly if each node comes before what is below it and
the nodes of each child come before those of the next. -/
theorem pairwise_nodes_iff (matchers : List Matcher) (tree : Value) :
    tree.nodes.Pairwise (InOrder matchers) ↔ ∀ v ∈ tree.nodes, LaidOut matchers v := by
  induction tree using Value.children_induction with
  | step tree ih =>
    simp only [Value.nodes_eq_cons tree, List.pairwise_cons, List.pairwise_flatMap, List.mem_cons,
      List.mem_flatMap, forall_eq_or_imp]
    constructor
    · rintro ⟨first, inside, parts⟩
      refine ⟨⟨fun child below w member => first w ⟨child, below, member⟩, parts⟩, ?_⟩
      rintro v ⟨child, below, member⟩
      exact (ih child below).mp (inside child below) v member
    · rintro ⟨⟨first, parts⟩, inside⟩
      refine ⟨?_, ?_, parts⟩
      · rintro w ⟨child, below, member⟩
        exact first child below w member
      · intro child below
        exact (ih child below).mpr fun v member => inside v ⟨child, below, member⟩

/-- Acceptances stand in the order of the text exactly if the accepted nodes do. -/
theorem pairwise_acceptances_iff (tree : Value) (matchers : List Matcher) :
    (acceptances tree matchers).Pairwise
        (fun earlier later => callStartsBefore later.call earlier.call = false) ↔
      tree.nodes.Pairwise (InOrder matchers) := by
  rw [acceptances_eq_flatMap, List.pairwise_flatMap]
  have alone : ∀ v ∈ tree.nodes, (acceptancesOf matchers v).Pairwise
      fun earlier later => callStartsBefore later.call earlier.call = false := by
    intro v _
    refine List.pairwise_of_forall_mem_list fun earlier member later member' => ?_
    rw [(mem_acceptancesOf_iff.mp member).1, (mem_acceptancesOf_iff.mp member').1]
    exact callStartsBefore_self v
  rw [and_iff_right alone]
  refine List.Pairwise.iff fun v w => ?_
  rw [InOrder, ← exists_acceptance_iff, ← exists_acceptance_iff]
  constructor
  · rintro inOrder ⟨entry, member⟩ ⟨entry', member'⟩
    have here := inOrder entry member entry' member'
    rwa [(mem_acceptancesOf_iff.mp member).1, (mem_acceptancesOf_iff.mp member').1] at here
  · intro inOrder entry member entry' member'
    rw [(mem_acceptancesOf_iff.mp member).1, (mem_acceptancesOf_iff.mp member').1]
    exact inOrder ⟨entry, member⟩ ⟨entry', member'⟩

/-- The matches of a scan stand in the order of the text exactly if their acceptances do. -/
theorem inSourceOrder_iff_acceptances {tree : Value} {matchers : List Matcher} {found : List Match}
    (returned : scan tree matchers = .ok found) :
    InSourceOrder found ↔ (acceptances tree matchers).Pairwise
      (fun earlier later => callStartsBefore later.call earlier.call = false) := by
  have located : (acceptances tree matchers).map (fun entry => Location.of entry.call) =
      found.map fun match_ => .ok match_.location :=
    Outcome.map_eq_map_iff_forall₂.mpr
      ((forall₂_reports returned).imp fun _ _ reports => reports.located)
  have both :=
    congrArg (List.Pairwise fun earlier later => startsBefore later earlier = false) located
  rw [List.pairwise_map, List.pairwise_map, eq_iff_iff] at both
  exact both.symm

/-- The matches of a scan come in the order of the text exactly if each node of the tree is laid out
in the order of its fields. -/
theorem inSourceOrder_iff_laidOut {tree : Value} {matchers : List Matcher} {found : List Match}
    (returned : scan tree matchers = .ok found) :
    InSourceOrder found ↔ ∀ v ∈ tree.nodes, LaidOut matchers v := by
  rw [inSourceOrder_iff_acceptances returned, pairwise_acceptances_iff, pairwise_nodes_iff]

end Scan

/-- Whatever parser of files is used, the calls that are found in a text come in the order in which
they start there exactly if each node of its tree is laid out in the order of its fields. -/
theorem findCalls_inSourceOrder_iff {parser : Source.FileParser}
    {source signature filename : Text.GivenText} {keys : Option TraversalKeys} {matcher : Matcher}
    {found : List Match}
    (returned : findCallsBy parser source signature filename keys = .ok (matcher, found)) :
    ∃ tree, parseSource parser source filename = .ok tree ∧
      (InSourceOrder found ↔ ∀ v ∈ tree.nodes, Scan.LaidOut [matcher] v) := by
  simp only [findCallsBy, Outcome.bind_eq_ok, Outcome.pure_eq_ok, Prod.mk.injEq] at returned
  obtain ⟨compiled, -, tree, parsed, scanned, returned, rfl, rfl⟩ := returned
  exact ⟨tree, parsed, Scan.inSourceOrder_iff_laidOut returned⟩

/-- Statements and nested calls are laid out in the order of their fields. -/
theorem statements_inSourceOrder :
    ∃ matcher found tree, findCalls "f(f(1))\nf(2)" "f(a)" "<string>" none = .ok (matcher, found) ∧
      found.length = 3 ∧
      parseSource Source.parser (.chars "f(f(1))\nf(2)") "<string>" = .ok tree ∧
      ∀ v ∈ tree.nodes, Scan.LaidOut [matcher] v := by
  obtain ⟨⟨matcher, found⟩, returned⟩ :
      ∃ result, findCalls "f(f(1))\nf(2)" "f(a)" "<string>" none = .ok result :=
    Outcome.exists_eq_ok (by decide +kernel)
  obtain ⟨tree, parsed, inOrder⟩ := findCalls_inSourceOrder_iff returned
  have facts : (findCalls "f(f(1))\nf(2)" "f(a)" "<string>" none).toOption.all
      (fun result => decide (result.2.length = 3) && decide (InSourceOrder result.2)) = true := by
    decide +kernel
  rw [returned] at facts
  simp only [Except.toOption, Option.all_some, Bool.and_eq_true, decide_eq_true_eq] at facts
  exact ⟨matcher, found, tree, returned, facts.1, parsed, inOrder.mp facts.2⟩

/-- The test of a conditional expression is reported first and stands in the middle: the calls start
in columns 8, 0 and 18, and only the conditional expression is not laid out in the order of its
fields. -/
theorem conditional_not_inSourceOrder :
    (do
      let (matcher, found) ← (findCalls "f(1) if f(2) else f(3)" "f(a)" "<string>" none).toOption
      let tree ←
        (parseSource Source.parser (.chars "f(1) if f(2) else f(3)") "<string>").toOption
      let broken := tree.nodes.filter fun v => !decide (Scan.LaidOut [matcher] v)
      return (found.map fun match_ => match_.location.column, decide (InSourceOrder found),
        broken.map Value.kind?)) =
      some ([.int 8, .int 0, .int 18], false, [some .ifExp]) := by
  decide +kernel

end CallSites
