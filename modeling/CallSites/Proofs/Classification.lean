import CallSites.Proofs.Reporting
import CallSites.Proofs.Tree.WellFormed

/-! # Classification agrees with the scan

Classification asks of every visited node which parameter it fills in the node that directly holds
it; a scan asks the same of the arguments of every accepted call. Every node below the root is the
child of exactly one occurrence of a node, and of the children of a call only its arguments fill
parameters, so both find the same pairs. They meet them in different orders, but the pairs of one
occurrence of a call come in the order of its arguments both times.
-/

namespace CallSites

open CallSites.Tree (Kind Value Visit)

namespace Tree.Value

/-- Asking every visited node about its parent is, up to the order, asking every node about its
children; only the root has its parent outside the tree. -/
theorem filterMap_preorder_perm {β : Type} (f : Value → Value → Option β) (parent : Option Value)
    (v : Value) :
    ((v.preorder parent).filterMap fun visit => visit.parent.bind (f visit.node)).Perm
      ((parent.bind (f v)).toList ++
        v.nodes.flatMap fun w => w.children.filterMap fun child => f child w) := by
  induction v using children_induction generalizing parent with
  | step v ih =>
    let below (child : Value) : List β :=
      child.nodes.flatMap fun w => w.children.filterMap fun child => f child w
    have children : (v.children.flatMap fun child =>
        (child.preorder (some v)).filterMap fun visit => visit.parent.bind (f visit.node)).Perm
          (v.children.flatMap fun child => (f child v).toList ++ below child) :=
      List.Perm.flatMap_left _ fun child member => ih child member (some v)
    have regrouped :=
      (List.flatMap_append_perm v.children (fun child => (f child v).toList) below).symm
    rw [preorder_eq_cons, nodes_eq_cons, List.filterMap_eq_flatMap_toList, List.flatMap_cons,
      ← List.filterMap_eq_flatMap_toList, List.filterMap_flatMap, List.flatMap_cons,
      List.flatMap_assoc, List.filterMap_eq_flatMap_toList (fun child => f child v)]
    exact (children.trans regrouped).append_left _

/-- Whether a list of arguments holds expressions only, and keywords are keyword nodes. -/
def hasTypedParts (call : Value) : Bool :=
  ((Matcher.arguments? call).getD []).all isExpression &&
    (slotChildren (call.attr? "keywords")).all (isKind .keyword)

/-- The arguments of every call are expressions, and its keywords are keyword nodes. -/
def CallsTyped (tree : Value) : Prop :=
  ∀ call ∈ tree.nodes, call.isKind .call = true → call.hasTypedParts = true

instance (tree : Value) : Decidable tree.CallsTyped :=
  inferInstanceAs (Decidable (∀ call ∈ tree.nodes, _))

theorem isNode_of_isExpression {v : Value} (expression : v.isExpression = true) :
    v.isNode = true := by
  cases v with
  | node => rfl
  | _ => simp [isExpression] at expression

/-- A keyword node is no expression. -/
theorem not_isKeyword_of_isExpression {v : Value} (expression : v.isExpression = true) :
    v.isKind .keyword = false := by
  cases v with
  | node tag kind slots marks =>
    apply Bool.eq_false_iff.mpr
    intro isKeyword
    obtain rfl : kind = .keyword := by simpa [isKind, kind?] using isKeyword
    rw [isExpression] at expression
    exact absurd expression (by decide)
  | _ => rfl

/-- The slots of a call by their names. -/
theorem attr?_call (tag : Nat) (func arguments keywords : Option Value)
    (marks : List (String × Value)) :
    (node tag .call [func, arguments, keywords] marks).attr? "func" = func ∧
      (node tag .call [func, arguments, keywords] marks).attr? "args" = arguments ∧
      (node tag .call [func, arguments, keywords] marks).attr? "keywords" = keywords :=
  ⟨rfl, rfl, rfl⟩

end Tree.Value

namespace Matcher

/-- The children of a call are its callee, the nodes among its arguments, and its keywords. -/
theorem children_of_isCall {call func : Value} {arguments : List Value}
    (isCall : IsCall call func arguments) (shaped : call.hasSlotPerField = true) :
    call.children =
      func :: (arguments.filter Value.isNode ++ Value.slotChildren (call.attr? "keywords")) := by
  obtain ⟨isKind, callee, isNode, tag, listed⟩ := isCall
  cases call with
  | node callTag kind slots marks =>
    obtain rfl : kind = .call := by simpa [Value.isKind, Value.kind?] using isKind
    obtain ⟨slot, slot', keywords, rfl⟩ : ∃ a b c, slots = [a, b, c] :=
      List.length_eq_three.mp (beq_iff_eq.mp shaped)
    have slots := Value.attr?_call callTag slot slot' keywords marks
    obtain rfl : slot = some func := slots.1.symm.trans callee
    obtain rfl : slot' = some (.list tag arguments) := slots.2.1.symm.trans listed
    rw [slots.2.2]
    cases func with
    | node =>
      simp only [Value.children, List.flatMap_cons, List.flatMap_nil, List.append_nil,
        Value.slotChildren, List.singleton_append]
    | _ => simp [Value.isNode] at isNode
  | _ => simp [Value.isKind, Value.kind?] at isKind

/-- The arguments of a call that fill parameters, with these parameters, in order. -/
def argumentPairs (matcher : Matcher) (call : Value) : List (Value × Parameter) :=
  ((arguments? call).getD []).filterMap fun argument =>
    (matcher.parameterOf? argument call).map (argument, ·)

private theorem parameterOf?_eq_none {matcher : Matcher} {parent : Value}
    (rejected : matcher.test parent = false) (node : Value) :
    matcher.parameterOf? node parent = none := by
  cases found : matcher.parameterOf? node parent with
  | none => rfl
  | some parameter => simp [test_of_parameterOf? found] at rejected

private theorem argumentPairs_eq_nil {matcher : Matcher} {call : Value}
    (rejected : matcher.test call = false) : matcher.argumentPairs call = [] := by
  simp [argumentPairs, parameterOf?_eq_none rejected]

private theorem argumentPairs_of_isCall {call func : Value} {arguments : List Value}
    (isCall : IsCall call func arguments) (matcher : Matcher) :
    matcher.argumentPairs call = arguments.filterMap fun argument =>
      (matcher.parameterOf? argument call).map (argument, ·) := by
  rw [argumentPairs, (isCall_iff.mp isCall).2, Option.getD_some]

private theorem parameterOf?_callee {call func : Value} {arguments : List Value}
    (isCall : IsCall call func arguments) (matcher : Matcher) :
    matcher.parameterOf? func call = none := by
  rw [Option.eq_none_iff_forall_ne_some]
  intro parameter fills
  have accepted := test_of_parameterOf? fills
  have notCallee := ((parameterOf?_of_isCall accepted isCall).mp fills).1
  simp [Value.same_self] at notCallee

/-- A child that is none of the arguments fills no parameter. -/
theorem parameterOf?_of_not_mem {tree call func child : Value} {arguments : List Value}
    (wellFormed : tree.WellFormed) (member : call ∈ tree.nodes)
    (isCall : IsCall call func arguments) (below : ∀ argument ∈ arguments, argument ∈ call.children)
    (childBelow : child ∈ call.children) (other : child ∉ arguments) (matcher : Matcher) :
    matcher.parameterOf? child call = none := by
  rw [Option.eq_none_iff_forall_ne_some]
  intro parameter fills
  obtain ⟨-, place, ⟨⟨argument, at_, same⟩, -⟩, -⟩ :=
    (parameterOf?_of_isCall (test_of_parameterOf? fills) isCall).mp fills
  have among := List.mem_of_getElem? at_
  obtain rfl := wellFormed.coherent
    argument (Value.mem_nodes_of_child member (below argument among))
    child (Value.mem_nodes_of_child member childBelow) same
  exact other among

/-- Of the children of a node in a well-formed tree exactly the arguments fill parameters. -/
theorem filterMap_children {tree call : Value} (wellFormed : tree.WellFormed)
    (typed : tree.CallsTyped) (member : call ∈ tree.nodes) (matcher : Matcher) :
    (call.children.filterMap fun child => (matcher.parameterOf? child call).map (child, ·)) =
      matcher.argumentPairs call := by
  cases accepted : matcher.test call with
  | false => simp [argumentPairs_eq_nil accepted, parameterOf?_eq_none accepted]
  | true =>
    obtain ⟨func, arguments, isCall, -, -⟩ := isCall_of_test accepted
    have parts := typed call member isCall.isKind
    rw [Value.hasTypedParts, (isCall_iff.mp isCall).2, Option.getD_some, Bool.and_eq_true,
      List.all_eq_true, List.all_eq_true] at parts
    obtain ⟨expressions, keywords⟩ := parts
    have children := children_of_isCall isCall (wellFormed.shaped call member)
    have nodes : arguments.filter Value.isNode = arguments := by
      rw [List.filter_eq_self]
      intro argument inside
      exact Value.isNode_of_isExpression (expressions argument inside)
    rw [nodes] at children
    have below : ∀ argument ∈ arguments, argument ∈ call.children := by
      intro argument among
      simp [children, among]
    -- A keyword that is an argument too would be a keyword node and an expression at once.
    have keywordsFill : ∀ child ∈ Value.slotChildren (call.attr? "keywords"),
        matcher.parameterOf? child call = none := by
      intro child inside
      have childBelow : child ∈ call.children := by simp [children, inside]
      refine parameterOf?_of_not_mem wellFormed member isCall below childBelow ?_ matcher
      intro among
      have isKeyword := keywords child inside
      rw [Value.not_isKeyword_of_isExpression (expressions child among)] at isKeyword
      cases isKeyword
    have keywordPairs : (Value.slotChildren (call.attr? "keywords")).filterMap
        (fun child => (matcher.parameterOf? child call).map (child, ·)) = [] := by
      rw [List.filterMap_eq_nil_iff]
      intro child inside
      rw [keywordsFill child inside, Option.map_none]
    rw [argumentPairs_of_isCall isCall, children,
      List.filterMap_cons_none (by rw [parameterOf?_callee isCall, Option.map_none]),
      List.filterMap_append, keywordPairs, List.append_nil]

end Matcher

namespace Scan

/-- A visited node with the parameter that it fills in its parent. -/
def pairOf? (matcher : Matcher) (visit : Visit) : Option (Value × Parameter) := do
  let parent ← visit.parent
  let parameter ← matcher.parameterOf? visit.node parent
  return (visit.node, parameter)

/-- The classified nodes with the paths at which they were met. -/
def classifiedAt (tree : Value) (matcher : Matcher) : List (List Nat × Value × Parameter) :=
  (tree.occurrences none).filterMap fun entry => (pairOf? matcher entry.2).map (entry.1, ·)

theorem classify_eq_ok {tree : Value} (isNode : tree.isNode = true) (matcher : Matcher) :
    classify tree matcher = .ok ((tree.preorder none).filterMap (pairOf? matcher)) := by
  rw [classify, visits_eq_ok.mpr ⟨isNode, rfl⟩]
  rfl

private theorem map_classifiedAt (tree : Value) (matcher : Matcher) :
    (classifiedAt tree matcher).map Prod.snd =
      (tree.preorder none).filterMap (pairOf? matcher) := by
  rw [classifiedAt, List.map_filterMap, ← Value.map_visit_occurrences, List.filterMap_map]
  congr 1
  funext entry
  cases found : pairOf? matcher entry.2 <;> simp [found]

/-- Among the classified nodes those of one occurrence are its children that fill parameters, in
order. -/
theorem filter_classifiedAt {tree : Value} {path : List Nat} {visit : Visit}
    (member : (path, visit) ∈ tree.occurrences none) (matcher : Matcher) :
    ((classifiedAt tree matcher).filter fun entry => Value.isBelow path entry.1).map Prod.snd =
      visit.node.children.filterMap fun child =>
        (matcher.parameterOf? child visit.node).map (child, ·) := by
  have labelled : ((classifiedAt tree matcher).filter fun entry => Value.isBelow path entry.1) =
      ((tree.occurrences none).filter fun entry => Value.isBelow path entry.1).filterMap
        fun entry => (pairOf? matcher entry.2).map (entry.1, ·) := by
    rw [classifiedAt, List.filter_filterMap, List.filterMap_filter]
    congr 1
    funext entry
    cases pairOf? matcher entry.2 <;> simp [Option.filter]
  rw [labelled, Value.filter_occurrences_below member, List.filterMap_map, List.map_filterMap]
  conv_rhs => rw [← List.zipIdx_map_fst 0 visit.node.children, List.filterMap_map]
  congr 1
  funext entry
  cases found : matcher.parameterOf? entry.1 visit.node <;> simp [pairOf?, found]

private theorem flatMap_nodes_perm (tree : Value) (matcher : Matcher) :
    ((tree.preorder none).filterMap (pairOf? matcher)).Perm
      (tree.nodes.flatMap fun call => call.children.filterMap fun child =>
        (matcher.parameterOf? child call).map (child, ·)) := by
  have perm := Value.filterMap_preorder_perm
    (fun child call => (matcher.parameterOf? child call).map (child, ·)) none tree
  rw [Option.bind_none, Option.toList_none, List.nil_append] at perm
  refine List.Perm.trans (List.Perm.of_eq ?_) perm
  congr 1
  funext visit
  rw [pairOf?]
  congr 1
  funext parent
  cases matcher.parameterOf? visit.node parent <;> rfl

private theorem map_bindings_of_reports {matcher : Matcher} {call : Value} {found : Match}
    (accepted : matcher.test call = true) (reports : Reports matcher call found) :
    (found.bindings.map fun binding => (binding.node, binding.parameter)) =
      matcher.argumentPairs call := by
  obtain ⟨tag, arguments, listed, bound⟩ := reports.bound
  obtain ⟨func, isCall⟩ := Matcher.isCall_of_listed accepted listed
  rw [bound, Matcher.argumentPairs_of_isCall isCall]

private theorem flatMap_acceptancesOf (matcher : Matcher) (call : Value) :
    ((acceptancesOf [matcher] call).flatMap fun entry => entry.matcher.argumentPairs entry.call) =
      matcher.argumentPairs call := by
  cases accepted : matcher.test call with
  | false => simp [acceptancesOf, accepted, Matcher.argumentPairs_eq_nil accepted]
  | true => simp [acceptancesOf, accepted]

/-- The pairs of all matches of a scan are those of all nodes, in preorder. -/
theorem flatMap_bindings {tree : Value} {matcher : Matcher} {found : List Match}
    (returned : scan tree [matcher] = .ok found) :
    (found.flatMap fun match_ =>
        match_.bindings.map fun binding => (binding.node, binding.parameter)) =
      tree.nodes.flatMap matcher.argumentPairs := by
  have reported := (List.forall₂_and_left _ _).mpr
    ⟨fun _ => mem_acceptances, forall₂_reports returned⟩
  have same : (found.map fun match_ =>
        match_.bindings.map fun binding => (binding.node, binding.parameter)) =
      (acceptances tree [matcher]).map fun entry => entry.matcher.argumentPairs entry.call := by
    rw [eq_comm, ← List.forall₂_eq_eq_eq, List.forall₂_map_left_iff, List.forall₂_map_right_iff]
    exact reported.imp fun _ _ ⟨entered, reports⟩ =>
      (map_bindings_of_reports entered.2 reports).symm
  rw [List.flatMap_def, same, ← List.flatMap_def, acceptances, List.flatMap_assoc]
  simp only [flatMap_acceptancesOf]
  rw [calls, ← Tree.flatMap_ite]
  apply List.flatMap_congr
  intro call _
  split
  · rfl
  · rename_i other
    rw [Matcher.argumentPairs_eq_nil]
    apply Bool.eq_false_iff.mpr
    intro accepted
    obtain ⟨_, _, isCall, -, -⟩ := Matcher.isCall_of_test accepted
    exact other isCall.isKind

/-- Classification and scan find the same pairs of an argument and the parameter that it fills, each
equally often. The pairs of one occurrence of an accepted call come in the order of its arguments,
both among the classified nodes and in the match of the call. -/
theorem classify_perm_scan {tree : Value} {matcher : Matcher} {found : List Match}
    (wellFormed : tree.WellFormed) (typed : tree.CallsTyped)
    (returned : scan tree [matcher] = .ok found) :
    classify tree matcher = .ok ((classifiedAt tree matcher).map Prod.snd) ∧
      ((classifiedAt tree matcher).map Prod.snd).Perm (found.flatMap fun match_ =>
        match_.bindings.map fun binding => (binding.node, binding.parameter)) ∧
      (∀ path visit tag arguments, (path, visit) ∈ tree.occurrences none →
        matcher.test visit.node = true → visit.node.attr? "args" = some (.list tag arguments) →
        ((classifiedAt tree matcher).filter fun entry => Value.isBelow path entry.1).map Prod.snd =
          arguments.filterMap fun argument =>
            (matcher.parameterOf? argument visit.node).map (argument, ·)) ∧
      ∀ match_ ∈ found, ∃ tag arguments, match_.call.attr? "args" = some (.list tag arguments) ∧
        (match_.bindings.map fun binding => (binding.node, binding.parameter)) =
          arguments.filterMap fun argument =>
            (matcher.parameterOf? argument match_.call).map (argument, ·) := by
  have children : ∀ call ∈ tree.nodes, (call.children.filterMap fun child =>
      (matcher.parameterOf? child call).map (child, ·)) = matcher.argumentPairs call :=
    fun call member => Matcher.filterMap_children wellFormed typed member matcher
  refine ⟨?_, ?_, ?_, ?_⟩
  · rw [map_classifiedAt]
    exact classify_eq_ok (isNode_of_scan returned) matcher
  · rw [map_classifiedAt, flatMap_bindings returned, ← List.flatMap_congr children]
    exact flatMap_nodes_perm tree matcher
  · intro path visit tag arguments member accepted listed
    have visited : visit.node ∈ tree.nodes := by
      rw [Value.nodes, ← Value.map_visit_occurrences]
      exact List.mem_map_of_mem (List.mem_map_of_mem member)
    obtain ⟨func, isCall⟩ := Matcher.isCall_of_listed accepted listed
    rw [filter_classifiedAt member, children visit.node visited,
      Matcher.argumentPairs_of_isCall isCall]
  · intro match_ member
    obtain ⟨entry, entered, reports⟩ := Outcome.exists_of_forall₂ (forall₂_reports returned) member
    have own : entry.matcher = matcher := List.mem_singleton.mp (mem_acceptances entered).1
    rw [own] at reports
    rw [reports.sameCall]
    exact reports.bound

private theorem sampleTree_wellFormed : sampleTree.WellFormed where
  shaped := by decide +kernel
  coherent := Value.coherent_of_apart (by decide +kernel)

/-- In `m.f(m.f(x), y)` the scan finds the pairs of the outer call before those of the inner one,
classification those of the inner call between those of the outer one. -/
theorem sampleTree_classified : ∃ found, scan sampleTree [Matcher.sampleMatcher] = .ok found ∧
    ((classifiedAt sampleTree Matcher.sampleMatcher).map Prod.snd).Perm (found.flatMap fun match_ =>
      match_.bindings.map fun binding => (binding.node, binding.parameter)) ∧
    (classifiedAt sampleTree Matcher.sampleMatcher).map Prod.fst =
      [[0, 0, 1], [0, 0, 1, 1], [0, 0, 2]] := by
  obtain ⟨found, returned⟩ : ∃ found, scan sampleTree [Matcher.sampleMatcher] = .ok found :=
    Outcome.exists_eq_ok (by decide +kernel)
  have agreed := classify_perm_scan sampleTree_wellFormed (by decide +kernel) returned
  exact ⟨found, returned, agreed.2.1, by decide +kernel⟩

end Scan

end CallSites
