import CallSites.Proofs.Reporting
import CallSites.Proofs.Tree.Equivalence
import CallSites.Proofs.Tree.SourceText

/-! # Scans do not see positions

Two respaced trees are walked in the same order, and a matcher accepts a call of one exactly if it
accepts the call at the same place of the other. So two scans that return report the calls at the
same places with the same parameters, and with the same source texts as long as corresponding
arguments have them; only the locations differ. The trees may be made of different objects, but a
call must not have one object twice among its callee and its arguments, and within an argument loose
expressions have to be shared alike. The copy of a tree without positions shares nothing, so it is
reported like the original if no argument repeats a loose expression.
-/

namespace CallSites

open CallSites.Tree (TraversalKeys Value)
open CallSites.Tree.Value (Respaced SharedAlike)

namespace Matcher

/-! ### One call -/

private theorem callee?_of_respaced {call call' : Value} (respaced : Respaced call call') :
    Option.Rel Respaced (callee? call) (callee? call') := by
  rw [callee?, callee?, ← respaced.isKind_eq]
  split
  · rename_i isKind
    have held := respaced.attr? isKind (by decide : Tree.Kind.call.fieldNamed "func" ∈ _)
    generalize call.attr? "func" = slot, call'.attr? "func" = slot' at held
    cases held with
    | none => exact .none
    | some both =>
      rw [Option.filter_some, Option.filter_some,
        Value.eq_of_shape Value.isNode_shape both.sameShape]
      split
      · exact .some both
      · exact .none
  · exact .none

private theorem arguments?_of_respaced {call call' : Value} (respaced : Respaced call call') :
    Option.Rel (List.Forall₂ Respaced) (arguments? call) (arguments? call') := by
  rw [arguments?, arguments?, ← respaced.isKind_eq]
  split
  · rename_i isKind
    have held := respaced.attr? isKind (by decide : Tree.Kind.call.fieldNamed "args" ∈ _)
    generalize call.attr? "args" = slot, call'.attr? "args" = slot' at held
    cases held with
    | none => exact .none
    | some both =>
      cases both with
      | list _ _ each => exact .some each
      | _ => exact .none
  · exact .none

/-- Respaced calls are accepted by the same matchers. -/
theorem test_of_respaced (matcher : Matcher) {call call' : Value} (respaced : Respaced call call') :
    matcher.test call = matcher.test call' := by
  have callees := callee?_of_respaced respaced
  have arguments := arguments?_of_respaced respaced
  unfold test matchedArgs?
  generalize callee? call = func, callee? call' = func' at callees
  generalize arguments? call = given, arguments? call' = given' at arguments
  cases callees with
  | none => rfl
  | @some func func' both =>
    cases arguments with
    | none => rfl
    | some each =>
      have equal := Value.eq_of_shape (Value.equal_shape_right matcher.callee) both.sameShape
      have depth : func.hasDepth matcher.keys matcher.calleeDepth =
          func'.hasDepth matcher.keys matcher.calleeDepth := by
        rw [Value.hasDepth, both.depth_eq, Value.hasDepth]
      simp only [depth, equal]
      by_cases same : (func'.hasDepth matcher.keys matcher.calleeDepth &&
          matcher.callee.equal func') = true
      · simp only [same, if_true, each.length_eq]
      · simp only [same, Bool.false_eq_true, if_false]

/-- The callee and the nodes among the arguments are children of a call, in this order. -/
theorem parts_sublist {call func : Value} {arguments : List Value}
    (isCall : IsCall call func arguments) :
    (func :: arguments.filter Value.isNode).Sublist call.children := by
  obtain ⟨isKind, callee, isNode, tag, listed⟩ := isCall
  cases call with
  | node callTag kind slots marks =>
    obtain rfl : kind = .call := by simpa [Value.isKind, Value.kind?] using isKind
    cases slots with
    | nil =>
      have missing : (none : Option Value) = some func := callee
      cases missing
    | cons first rest =>
      obtain rfl : first = some func := callee
      cases rest with
      | nil =>
        have missing : (none : Option Value) = some (.list tag arguments) := listed
        cases missing
      | cons second rest =>
        obtain rfl : second = some (.list tag arguments) := listed
        cases func with
        | node =>
          simp only [Value.children, List.flatMap_cons, Value.slotChildren]
          exact .cons_cons _ (List.sublist_append_left ..)
        | _ => cases isNode
  | _ => cases isKind

end Matcher

open Matcher (IsCall ObjectsApart)

/-- Two matches that say the same of respaced calls. -/
structure Match.SameReport (found found' : Match) : Prop where
  signature : found.signature = found'.signature
  call : Respaced found.call found'.call
  parameters : found.bindings.map Binding.parameter = found'.bindings.map Binding.parameter
  sources : found.bindings.map Binding.source = found'.bindings.map Binding.source
  nodes : List.Forall₂ Respaced (found.bindings.map Binding.node)
    (found'.bindings.map Binding.node)

namespace Scan

/-- Bindings of the same parameters to respaced expressions, with the same texts. -/
def SameBindings : List Binding → List Binding → Prop :=
  List.Forall₂ fun binding binding' => binding.parameter = binding'.parameter ∧
    binding.source = binding'.source ∧ Respaced binding.node binding'.node

/-- Respaced arguments that fill the same parameters and have the same texts are bound alike. -/
theorem bindings_of_respaced {matcher : Matcher} {call call' : Value}
    {arguments arguments' : List Value}
    (alike : List.Forall₂ (fun a a' => matcher.parameterOf? a call = matcher.parameterOf? a' call' ∧
      a.source = a'.source ∧ Respaced a a') arguments arguments') {found : List Binding}
    (built : bindings matcher call arguments = .ok found) :
    ∃ found', bindings matcher call' arguments' = .ok found' ∧ SameBindings found found' := by
  induction alike generalizing found with
  | nil =>
    obtain rfl : [] = found := Except.ok.inj built
    exact ⟨[], rfl, .nil⟩
  | @cons a a' _ _ head _ ih =>
    obtain ⟨fills, text, respaced⟩ := head
    unfold bindings at built ⊢
    rw [← fills, ← text]
    cases filled : matcher.parameterOf? a call with
    | none =>
      rw [filled] at built
      exact ih built
    | some parameter =>
      rw [filled] at built
      simp only [Outcome.bind_eq_ok, Outcome.pure_eq_ok, Binding.make_eq_ok] at built ⊢
      obtain ⟨source, printed, binding, ⟨expression, rfl⟩, others, rest, rfl⟩ := built
      obtain ⟨others', rest', related⟩ := ih rest
      rw [Value.eq_of_shape Value.isExpression_shape respaced.sameShape] at expression
      exact ⟨_, ⟨source, printed, _, ⟨expression, rfl⟩, others', rest', rfl⟩,
        .cons ⟨rfl, rfl, respaced⟩ related⟩

/-- Only expressions are bound to parameters. -/
theorem isExpression_of_bindings {matcher : Matcher} {call : Value} {arguments : List Value}
    {found : List Binding} (built : bindings matcher call arguments = .ok found) :
    ∀ argument ∈ arguments, (matcher.parameterOf? argument call).isSome = true →
      argument.isExpression = true := by
  obtain ⟨filled, -, expressions⟩ := bindings_eq_ok built
  intro argument member fills
  obtain ⟨parameter, fills⟩ := Option.isSome_iff_exists.mp fills
  have bound : (argument, parameter) ∈
      found.map fun binding => (binding.node, binding.parameter) := by
    rw [filled]
    exact List.mem_filterMap.mpr ⟨argument, member, by rw [fills]; rfl⟩
  obtain ⟨binding, member, same⟩ := List.mem_map.mp bound
  rw [← (Prod.mk.inj same).1]
  exact expressions binding member

/-- All arguments of a call that is reported are nodes, if its objects are apart. -/
theorem isNode_of_buildMatch {matcher : Matcher} {call func : Value} {arguments : List Value}
    {found : Match} (accepted : matcher.test call = true) (isCall : IsCall call func arguments)
    (apart : ObjectsApart func arguments) (built : buildMatch matcher call = .ok found) :
    ∀ argument ∈ arguments, argument.isNode = true := by
  simp only [buildMatch, Outcome.bind_eq_ok, (Matcher.isCall_iff.mp isCall).2,
    Option.getD_some] at built
  obtain ⟨bound, bindings, -⟩ := built
  intro argument member
  have fills : matcher.parameterOf? argument call ∈
      (matcher.filled arguments.length).map some := by
    rw [← Matcher.map_parameterOf? accepted isCall apart]
    exact List.mem_map_of_mem member
  obtain ⟨parameter, -, fills⟩ := List.mem_map.mp fills
  have expression := isExpression_of_bindings bindings argument member (by rw [← fills]; rfl)
  cases argument with
  | node => rfl
  | _ => cases expression

private theorem sameReport_of_bindings {signature : String} {call call' : Value}
    {location location' : Location} {bindings bindings' : List Binding}
    (respaced : Respaced call call') (related : SameBindings bindings bindings') :
    Match.SameReport ⟨signature, call, location, bindings⟩
      ⟨signature, call', location', bindings'⟩ := by
  refine ⟨rfl, respaced, ?_, ?_, ?_⟩
  · exact Outcome.map_eq_map_iff_forall₂.mpr (related.imp fun _ _ both => both.1)
  · exact Outcome.map_eq_map_iff_forall₂.mpr (related.imp fun _ _ both => both.2.1)
  · rw [List.forall₂_map_left_iff, List.forall₂_map_right_iff]
    exact related.imp fun _ _ both => both.2.2

/-- The arguments of a call. -/
def argumentsOf (call : Value) : List Value := (Matcher.arguments? call).getD []

private theorem argumentsOf_eq {call func : Value} {arguments : List Value}
    (isCall : IsCall call func arguments) : argumentsOf call = arguments := by
  rw [argumentsOf, (Matcher.isCall_iff.mp isCall).2, Option.getD_some]

/-- The match of a call carries over to a respaced call that has a location, if the arguments of
both have the same texts. -/
theorem buildMatch_of_respaced {matcher : Matcher} {call call' func func' : Value}
    {arguments arguments' : List Value} {found : Match} {location' : Location}
    (respaced : Respaced call call') (accepted : matcher.test call = true)
    (isCall : IsCall call func arguments) (isCall' : IsCall call' func' arguments')
    (apart : ObjectsApart func arguments) (apart' : ObjectsApart func' arguments')
    (texts : List.Forall₂ (fun a a' => a.source = a'.source ∧ Respaced a a') arguments arguments')
    (located : Location.of call' = .ok location') (built : buildMatch matcher call = .ok found) :
    ∃ found', buildMatch matcher call' = .ok found' ∧ found.SameReport found' := by
  have accepted' : matcher.test call' = true := matcher.test_of_respaced respaced ▸ accepted
  have fills : List.Forall₂
      (fun a a' => matcher.parameterOf? a call = matcher.parameterOf? a' call')
      arguments arguments' := by
    rw [← Outcome.map_eq_map_iff_forall₂, Matcher.map_parameterOf? accepted isCall apart,
      Matcher.map_parameterOf? accepted' isCall' apart', texts.length_eq]
  simp only [buildMatch, Outcome.bind_eq_ok, (Matcher.isCall_iff.mp isCall).2,
    (Matcher.isCall_iff.mp isCall').2, Option.getD_some] at built ⊢
  obtain ⟨bound, bindings, location, -, made⟩ := built
  obtain ⟨bound', bindings', related⟩ :=
    bindings_of_respaced (fills.mp (fun _ _ fill both => ⟨fill, both⟩) texts) bindings
  obtain ⟨named, -, ⟨count, counted, room⟩, rfl⟩ := Match.make_eq_ok.mp made
  have counted' : Match.argumentCount call' = .ok count := by
    rw [Match.argumentCount_of_arguments? (Matcher.isCall_iff.mp isCall').2, ← texts.length_eq,
      ← Match.argumentCount_of_arguments? (Matcher.isCall_iff.mp isCall).2]
    exact counted
  have made' : Match.make matcher.signature call' location' bound' = .ok _ :=
    Match.make_eq_ok.mpr ⟨named, isCall'.isKind, ⟨count, counted', related.length_eq ▸ room⟩, rfl⟩
  exact ⟨_, ⟨bound', bindings', location', located, made'⟩,
    sameReport_of_bindings respaced related⟩

/-! ### All calls -/

/-- Whether no call of a tree has one object twice among its callee and its arguments. -/
def PartsApart (tree : Value) : Prop :=
  ∀ call ∈ calls tree, ∀ func ∈ Matcher.callee? call, ∀ arguments ∈ Matcher.arguments? call,
    ObjectsApart func arguments

instance (tree : Value) : Decidable (PartsApart tree) :=
  inferInstanceAs (Decidable (∀ call ∈ calls tree, ∀ func ∈ Matcher.callee? call,
    ∀ arguments ∈ Matcher.arguments? call, ObjectsApart func arguments))

/-- Whether no call of a tree with nodes as arguments has one object twice. -/
def NodesApart (tree : Value) : Prop :=
  ∀ call ∈ tree.nodes, ∀ func arguments, IsCall call func arguments →
    (∀ argument ∈ arguments, argument.isNode = true) → ObjectsApart func arguments

private theorem PartsApart.of_isCall {tree call func : Value} {arguments : List Value}
    (apart : PartsApart tree) (inside : call ∈ tree.nodes) (isCall : IsCall call func arguments) :
    ObjectsApart func arguments := by
  obtain ⟨callee, listed⟩ := Matcher.isCall_iff.mp isCall
  exact apart call (List.mem_filter.mpr ⟨inside, isCall.isKind⟩) func callee arguments listed

/-- Whether one of the matchers accepts a value. -/
def anyAccepts (matchers : List Matcher) (v : Value) : Bool :=
  matchers.any fun matcher => matcher.test v

/-- The arguments of all accepted calls. -/
def reportedArguments (matchers : List Matcher) (tree : Value) : List Value :=
  (tree.nodes.filter (anyAccepts matchers)).flatMap argumentsOf

/-- The pairs of arguments at one place of accepted calls at one place. -/
def correspondingArguments (matchers : List Matcher) (tree tree' : Value) : List (Value × Value) :=
  ((tree.nodes.zip tree'.nodes).filter fun both => anyAccepts matchers both.1).flatMap
    fun both => (argumentsOf both.1).zip (argumentsOf both.2)

/-- A call and a matcher that accepts it, in two trees at the same places. -/
structure SameAcceptance (tree tree' : Value) (entry entry' : Acceptance) : Prop where
  calls : (entry.call, entry'.call) ∈ tree.nodes.zip tree'.nodes
  matcher : entry.matcher = entry'.matcher

private theorem acceptancesOf_of_respaced (matchers : List Matcher) {tree tree' call call' : Value}
    (respaced : Respaced call call') (paired : (call, call') ∈ tree.nodes.zip tree'.nodes) :
    List.Forall₂ (SameAcceptance tree tree') (acceptancesOf matchers call)
      (acceptancesOf matchers call') := by
  have accepting : (fun entry : Matcher × Nat => entry.1.test call) =
      fun entry => entry.1.test call' := funext fun entry => entry.1.test_of_respaced respaced
  rw [acceptancesOf, acceptancesOf, accepting, List.forall₂_map_left_iff,
    List.forall₂_map_right_iff, List.forall₂_same]
  exact fun entry _ => ⟨paired, rfl⟩

/-- Only calls are accepted, so their acceptances are those of all nodes. -/
theorem acceptances_eq_flatMap (tree : Value) (matchers : List Matcher) :
    acceptances tree matchers = tree.nodes.flatMap (acceptancesOf matchers) := by
  rw [acceptances, calls]
  induction tree.nodes with
  | nil => rfl
  | cons v rest ih =>
    rw [List.filter_cons, List.flatMap_cons]
    split
    · rw [List.flatMap_cons, ih]
    · rename_i other
      have none : acceptancesOf matchers v = [] := by
        rw [acceptancesOf, List.map_eq_nil_iff, List.filter_eq_nil_iff]
        intro entry _ accepted
        obtain ⟨func, arguments, isCall, -⟩ := Matcher.test_eq_true.mp accepted
        exact other isCall.isKind
      rw [none, List.nil_append, ih]

private theorem acceptances_of_respaced {tree tree' : Value} (respaced : Respaced tree tree')
    (matchers : List Matcher) :
    List.Forall₂ (SameAcceptance tree tree') (acceptances tree matchers)
      (acceptances tree' matchers) := by
  rw [acceptances_eq_flatMap, acceptances_eq_flatMap]
  exact List.rel_flatMap respaced.nodes_paired fun _ _ both =>
    acceptancesOf_of_respaced matchers (respaced.of_mem_zip both) both

private theorem mem_correspondingArguments {tree tree' call call' : Value} {matchers : List Matcher}
    (paired : (call, call') ∈ tree.nodes.zip tree'.nodes)
    (accepted : anyAccepts matchers call = true) {pair : Value × Value}
    (member : pair ∈ (argumentsOf call).zip (argumentsOf call')) :
    pair ∈ correspondingArguments matchers tree tree' :=
  List.mem_flatMap.mpr ⟨(call, call'), List.mem_filter.mpr ⟨paired, accepted⟩, member⟩

section

variable {tree tree' : Value} {matchers : List Matcher} (respaced : Respaced tree tree')
  (apart : PartsApart tree) (apart' : NodesApart tree')
  (texts : ∀ pair ∈ correspondingArguments matchers tree tree', pair.1.source = pair.2.source)
  (located : ∀ call ∈ tree'.nodes, anyAccepts matchers call = true →
    ∃ location, Location.of call = .ok location)

include respaced apart apart' texts located

/-- One acceptance: its match carries over to the acceptance at the same places. -/
theorem buildMatch_of_sameAcceptance {entry entry' : Acceptance} {found : Match}
    (listed : entry.matcher ∈ matchers) (accepted : entry.matcher.test entry.call = true)
    (same : SameAcceptance tree tree' entry entry')
    (built : buildMatch entry.matcher entry.call = .ok found) :
    ∃ found', buildMatch entry'.matcher entry'.call = .ok found' ∧ found.SameReport found' := by
  obtain ⟨paired, sameMatcher⟩ := same
  rw [← sameMatcher]
  have respacedCall := respaced.of_mem_zip paired
  obtain ⟨inside, inside'⟩ := List.of_mem_zip paired
  have accepted' : entry.matcher.test entry'.call = true :=
    entry.matcher.test_of_respaced respacedCall ▸ accepted
  obtain ⟨func, arguments, isCall, -, -⟩ := Matcher.isCall_of_test accepted
  obtain ⟨func', arguments', isCall', -, -⟩ := Matcher.isCall_of_test accepted'
  have each := Matcher.arguments?_of_respaced respacedCall
  rw [(Matcher.isCall_iff.mp isCall).2, (Matcher.isCall_iff.mp isCall').2,
    Option.rel_some_some] at each
  have alike : List.Forall₂ (fun a a' => a.source = a'.source ∧ Respaced a a') arguments
      arguments' := by
    refine List.forall₂_iff_zip.mpr ⟨each.length_eq, fun {a a'} member => ⟨?_, ?_⟩⟩
    · have accepts : anyAccepts matchers entry.call = true :=
        List.any_eq_true.mpr ⟨_, listed, accepted⟩
      rw [← argumentsOf_eq isCall, ← argumentsOf_eq isCall'] at member
      exact texts (a, a') (mem_correspondingArguments paired accepts member)
    · exact (List.forall₂_iff_zip.mp each).2 member
  obtain ⟨location', atLocation⟩ :=
    located _ inside' (List.any_eq_true.mpr ⟨_, listed, accepted'⟩)
  have apartHere := apart.of_isCall inside isCall
  have areNodes := isNode_of_buildMatch accepted isCall apartHere built
  have apartThere := apart' _ inside' _ _ isCall' fun argument member => by
    obtain ⟨original, given, both⟩ := Outcome.exists_of_forall₂ each member
    rw [← Value.eq_of_shape Value.isNode_shape both.sameShape]
    exact areNodes original given
  exact buildMatch_of_respaced respacedCall accepted isCall isCall' apartHere apartThere alike
    atLocation built

/-- A scan carries over to a respaced tree whose accepted calls have locations, if corresponding
arguments have the same texts. -/
theorem scan_of_respaced {found : List Match} (returned : scan tree matchers = .ok found) :
    ∃ found', scan tree' matchers = .ok found' ∧ List.Forall₂ Match.SameReport found found' := by
  obtain ⟨isNode, built⟩ := scan_eq_ok.mp returned
  have entered := (List.forall₂_and_left _ _).mpr ⟨fun _ => mem_acceptances, built⟩
  have carry : ∀ entry entry' found, ((entry.matcher ∈ matchers ∧
      entry.matcher.test entry.call = true) ∧ buildMatch entry.matcher entry.call = .ok found) →
      SameAcceptance tree tree' entry entry' → ∃ found',
        buildMatch entry'.matcher entry'.call = .ok found' ∧ Match.SameReport found found' :=
    fun _ _ _ success same => buildMatch_of_sameAcceptance respaced apart apart' texts located
      success.1.1 success.1.2 same success.2
  obtain ⟨found', built', related⟩ :=
    Outcome.exists_forall₂ carry entered (acceptances_of_respaced respaced matchers)
  rw [Value.eq_of_shape Value.isNode_shape respaced.sameShape] at isNode
  exact ⟨found', scan_eq_ok.mpr ⟨isNode, built'⟩, related⟩

end

/-! ### Places -/

/-- The places in the preorder at which the calls of the acceptances stand. -/
def places (matchers : List Matcher) (tree : Value) : List Nat :=
  tree.nodes.zipIdx.flatMap fun entry => (acceptancesOf matchers entry.1).map fun _ => entry.2

/-- Matches whose calls are those at the places of the acceptances. -/
def StandAtPlaces (matchers : List Matcher) (tree : Value) (found : List Match) : Prop :=
  (places matchers tree).map (fun place => tree.nodes[place]?) =
    found.map fun match_ => some match_.call

private theorem places_of_respaced {tree tree' : Value} (respaced : Respaced tree tree')
    (matchers : List Matcher) : places matchers tree = places matchers tree' := by
  rw [places, places, ← List.forall₂_eq_eq_eq]
  refine List.rel_flatMap (Outcome.forall₂_zipIdx respaced.nodes_paired 0) ?_
  rintro ⟨v, place⟩ ⟨w, _⟩ ⟨both, rfl⟩
  rw [List.forall₂_map_left_iff, List.forall₂_map_right_iff]
  exact (acceptancesOf_of_respaced matchers (respaced.of_mem_zip both) both).imp fun _ _ _ => rfl

private theorem standAtPlaces_of_scan {tree : Value} {matchers : List Matcher} {found : List Match}
    (returned : scan tree matchers = .ok found) : StandAtPlaces matchers tree found := by
  have reported : (acceptances tree matchers).map (fun entry => some entry.call) =
      found.map fun match_ => some match_.call :=
    Outcome.map_eq_map_iff_forall₂.mpr
      ((forall₂_reports returned).imp fun _ _ reports => congrArg some reports.sameCall.symm)
  have numbered : acceptances tree matchers =
      tree.nodes.zipIdx.flatMap fun entry => acceptancesOf matchers entry.1 := by
    rw [acceptances_eq_flatMap]
    conv_lhs => rw [← List.zipIdx_map_fst 0 tree.nodes, List.flatMap_map]
  rw [StandAtPlaces, ← reported, numbered, places, List.map_flatMap, List.map_flatMap]
  refine List.flatMap_congr fun entry member => ?_
  rw [List.map_map]
  refine List.map_congr_left fun acceptance inside => ?_
  obtain ⟨-, -, rfl⟩ := List.mem_map.mp inside
  exact List.mem_zipIdx_iff_getElem?.mp member

/-- The scans of two trees report the calls at the same places, in the same words. -/
structure SameScans (matchers : List Matcher) (tree tree' : Value) (found found' : List Match) :
    Prop where
  reports : List.Forall₂ Match.SameReport found found'
  samePlaces : places matchers tree = places matchers tree'
  standing : StandAtPlaces matchers tree found
  standing' : StandAtPlaces matchers tree' found'

/-! ### Arguments and copies -/

private theorem isCall_of_anyAccepts {matchers : List Matcher} {call : Value}
    (accepts : anyAccepts matchers call = true) : ∃ func, IsCall call func (argumentsOf call) := by
  obtain ⟨matcher, -, accepted⟩ := List.any_eq_true.mp accepts
  obtain ⟨func, arguments, isCall, -⟩ := Matcher.isCall_of_test accepted
  exact ⟨func, by rwa [argumentsOf_eq isCall]⟩

/-- Arguments that are nodes are nodes of the tree. -/
theorem mem_nodes_of_reportedArguments {matchers : List Matcher} {tree argument : Value}
    (member : argument ∈ reportedArguments matchers tree) (isNode : argument.isNode = true) :
    argument ∈ tree.nodes := by
  obtain ⟨call, kept, given⟩ := List.mem_flatMap.mp member
  obtain ⟨inside, accepts⟩ := List.mem_filter.mp kept
  obtain ⟨func, isCall⟩ := isCall_of_anyAccepts accepts
  have below := (Matcher.parts_sublist isCall).subset
    (List.mem_cons_of_mem _ (List.mem_filter.mpr ⟨given, isNode⟩))
  exact (Value.nodes_sublist inside).subset ((Value.children_sublist call).subset below)

/-- Arguments at one place are respaced, and both are reported. -/
theorem of_mem_correspondingArguments {matchers : List Matcher} {tree tree' : Value}
    (respaced : Respaced tree tree') {pair : Value × Value}
    (member : pair ∈ correspondingArguments matchers tree tree') :
    Respaced pair.1 pair.2 ∧ pair.1 ∈ reportedArguments matchers tree ∧
      pair.2 ∈ reportedArguments matchers tree' := by
  obtain ⟨⟨call, call'⟩, kept, given⟩ := List.mem_flatMap.mp member
  obtain ⟨paired, accepts⟩ := List.mem_filter.mp kept
  obtain ⟨inside, inside'⟩ := List.of_mem_zip paired
  obtain ⟨left, right⟩ := List.of_mem_zip given
  have respacedCall := respaced.of_mem_zip paired
  have accepts' : anyAccepts matchers call' = true := by
    simp only [anyAccepts, ← Matcher.test_of_respaced _ respacedCall]
    exact accepts
  refine ⟨?_, List.mem_flatMap.mpr ⟨call, List.mem_filter.mpr ⟨inside, accepts⟩, left⟩,
    List.mem_flatMap.mpr ⟨call', List.mem_filter.mpr ⟨inside', accepts'⟩, right⟩⟩
  obtain ⟨func, isCall⟩ := isCall_of_anyAccepts accepts
  obtain ⟨func', isCall'⟩ := isCall_of_anyAccepts accepts'
  have each := Matcher.arguments?_of_respaced respacedCall
  rw [(Matcher.isCall_iff.mp isCall).2, (Matcher.isCall_iff.mp isCall').2,
    Option.rel_some_some] at each
  exact (List.forall₂_iff_zip.mp each).2 given

private theorem nodesApart_copied (next : Nat) {tree : Value} (isNode : tree.isNode = true) :
    NodesApart (tree.copied next) := by
  intro call inside func arguments isCall areNodes
  have parts := Matcher.parts_sublist isCall
  rw [List.filter_eq_self.mpr areNodes] at parts
  have below := (parts.trans (Value.children_sublist call)).trans (Value.nodes_sublist inside)
  exact ((Value.apart_copied next isNode).sublist below).imp fun both => both.1

/-- A call without positions stands at the start. -/
theorem location_of_copied {next : Nat} {tree call : Value}
    (inside : call ∈ (tree.copied next).nodes) (isKind : call.isKind .call = true) :
    Location.of call = .ok .start := by
  obtain ⟨original, next, rfl⟩ := Value.exists_copied_of_node inside
  cases original with
  | node tag kind slots marks =>
    obtain rfl : kind = .call := by
      simpa [Value.isKind, Value.kind?, Value.copied, Value.purify, Value.retag] using isKind
    rfl
  | _ => cases isKind

/-- The arguments of a copy have the texts of the original, if these repeat no loose expression. -/
theorem texts_of_copied {matchers : List Matcher} {tree : Value} (next : Nat)
    (isNode : tree.isNode = true) (bare : tree.bareMarks = true)
    (printable : ∀ argument ∈ reportedArguments matchers tree, argument.isPrintable = true)
    (once : ∀ argument ∈ reportedArguments matchers tree, argument.LooseOnce) :
    ∀ pair ∈ correspondingArguments matchers tree (tree.copied next),
      pair.1.source = pair.2.source := by
  intro pair member
  obtain ⟨respaced, left, right⟩ :=
    of_mem_correspondingArguments (Value.respaced_copied next bare) member
  have printed := printable _ left
  have isNode' : pair.2.isNode = true := by
    rw [← Value.eq_of_shape Value.isNode_shape respaced.sameShape]
    exact Value.isNode_of_isPrintable printed
  have below := Value.nodes_sublist (mem_nodes_of_reportedArguments right isNode')
  have printed' : pair.2.isPrintable = true := by
    refine List.all_eq_true.mpr fun node inside => ?_
    obtain ⟨original, given, both⟩ := Outcome.exists_of_forall₂ respaced.nodes inside
    obtain ⟨_, _, rfl⟩ := Value.exists_copied_of_node (below.subset inside)
    exact Value.belongsInExpressions_copied both.sameShape
      (List.all_eq_true.mp printed original given)
  have apart := (Value.apart_copied next isNode).sublist below
  exact respaced.source_eq printed printed'
    (Value.sharedAlike_of_once respaced.nodes.length_eq (once _ left) apart)

theorem mem_acceptancesOf_iff {matchers : List Matcher} {v : Value} {entry : Acceptance} :
    entry ∈ acceptancesOf matchers v ↔ entry.call = v ∧
      matchers[entry.place]? = some entry.matcher ∧ entry.matcher.test v = true := by
  obtain ⟨call, matcher, place⟩ := entry
  simp only [acceptancesOf, List.mem_map, List.mem_filter, List.mem_zipIdx_iff_getElem?,
    Acceptance.mk.injEq]
  constructor
  · rintro ⟨numbered, ⟨present, accepted⟩, rfl, rfl, rfl⟩
    exact ⟨rfl, present, accepted⟩
  · rintro ⟨rfl, present, accepted⟩
    exact ⟨(matcher, place), ⟨present, accepted⟩, rfl, rfl, rfl⟩

/-- A node has an acceptance exactly if one of the matchers accepts it. -/
theorem exists_acceptance_iff {matchers : List Matcher} {v : Value} :
    (∃ entry, entry ∈ acceptancesOf matchers v) ↔ anyAccepts matchers v = true := by
  simp only [mem_acceptancesOf_iff, anyAccepts, List.any_eq_true]
  constructor
  · rintro ⟨entry, rfl, present, accepted⟩
    exact ⟨entry.matcher, List.mem_of_getElem? present, accepted⟩
  · rintro ⟨matcher, listed, accepted⟩
    obtain ⟨place, present⟩ := List.mem_iff_getElem?.mp listed
    exact ⟨⟨v, matcher, place⟩, rfl, present, accepted⟩

/-- If a scan returns, all accepted calls have locations. -/
theorem location_of_scan {tree call : Value} {matchers : List Matcher} {found : List Match}
    (returned : scan tree matchers = .ok found) (inside : call ∈ tree.nodes)
    (accepts : anyAccepts matchers call = true) : ∃ location, Location.of call = .ok location := by
  obtain ⟨entry, accepted⟩ := exists_acceptance_iff.mpr accepts
  have entered : entry ∈ acceptances tree matchers := by
    rw [acceptances_eq_flatMap]
    exact List.mem_flatMap.mpr ⟨call, inside, accepted⟩
  obtain ⟨match_, -, reports⟩ :=
    Outcome.exists_of_forall₂ (forall₂_reports returned).flip entered
  rw [← (mem_acceptancesOf_iff.mp accepted).1]
  exact ⟨_, reports.located⟩

/-- The matches of a copy all stand at the start. -/
theorem location_of_scan_copied {next : Nat} {tree : Value} {matchers : List Matcher}
    {found : List Match} (returned : scan (tree.copied next) matchers = .ok found) :
    ∀ match_ ∈ found, match_.location = .start := by
  intro match_ member
  obtain ⟨entry, entered, reports⟩ := Outcome.exists_of_forall₂ (forall₂_reports returned) member
  obtain ⟨call, inside, accepted⟩ := List.mem_flatMap.mp entered
  obtain ⟨inside, isKind⟩ := List.mem_filter.mp inside
  have located := reports.located
  rw [(mem_acceptancesOf_iff.mp accepted).1, location_of_copied inside isKind] at located
  exact (Except.ok.inj located).symm

/-- A scan of a tree whose arguments repeat no loose expressions is the scan of its copies. -/
theorem scan_copied {tree : Value} {matchers : List Matcher} {found : List Match} (next : Nat)
    (apart : PartsApart tree) (bare : tree.bareMarks = true)
    (printable : ∀ argument ∈ reportedArguments matchers tree, argument.isPrintable = true)
    (once : ∀ argument ∈ reportedArguments matchers tree, argument.LooseOnce)
    (returned : scan tree matchers = .ok found) :
    ∃ copies, scan (tree.copied next) matchers = .ok copies ∧
      SameScans matchers tree (tree.copied next) found copies ∧
      ∀ copy ∈ copies, copy.location = .start := by
  have isNode := isNode_of_scan returned
  have respaced := Value.respaced_copied next bare
  obtain ⟨copies, returned', reports⟩ := scan_of_respaced respaced apart
    (nodesApart_copied next isNode) (texts_of_copied next isNode bare printable once)
    (fun call inside accepts => by
      obtain ⟨func, isCall⟩ := isCall_of_anyAccepts accepts
      exact ⟨_, location_of_copied inside isCall.isKind⟩) returned
  refine ⟨copies, returned', ?_, location_of_scan_copied returned'⟩
  exact ⟨reports, places_of_respaced respaced matchers, standAtPlaces_of_scan returned,
    standAtPlaces_of_scan returned'⟩

/-- The scans of two trees that differ in positions alone, if both return, report the calls at the
same places with the same signatures, parameters and source texts. Positions are marks that hold no
nodes; no call may have one object twice among its callee and its arguments, and within the
arguments loose expressions have to be shared alike. If no argument repeats a loose expression, then
a copy of the tree without positions gives the same matches, all located at the start. -/
theorem scan_ignores_positions {tree tree' : Value} {matchers : List Matcher}
    {found found' : List Match} (respaced : Respaced tree tree') (apart : PartsApart tree)
    (apart' : PartsApart tree')
    (printable : ∀ argument ∈ reportedArguments matchers tree, argument.isPrintable = true)
    (printable' : ∀ argument ∈ reportedArguments matchers tree', argument.isPrintable = true)
    (shared : ∀ pair ∈ correspondingArguments matchers tree tree', SharedAlike pair.1 pair.2)
    (returned : scan tree matchers = .ok found) (returned' : scan tree' matchers = .ok found') :
    SameScans matchers tree tree' found found' ∧
      (tree.bareMarks = true →
        (∀ argument ∈ reportedArguments matchers tree, argument.LooseOnce) →
        ∀ next, ∃ copies, scan (tree.copied next) matchers = .ok copies ∧
          SameScans matchers tree (tree.copied next) found copies ∧
          ∀ copy ∈ copies, copy.location = .start) := by
  refine ⟨⟨?_, places_of_respaced respaced matchers, standAtPlaces_of_scan returned,
    standAtPlaces_of_scan returned'⟩, ?_⟩
  · have texts : ∀ pair ∈ correspondingArguments matchers tree tree',
        pair.1.source = pair.2.source := by
      intro pair member
      obtain ⟨both, left, right⟩ := of_mem_correspondingArguments respaced member
      exact both.source_eq (printable _ left) (printable' _ right) (shared _ member)
    have apartNodes : NodesApart tree' :=
      fun _ inside _ _ isCall _ => apart'.of_isCall inside isCall
    obtain ⟨again, returnedAgain, reports⟩ := scan_of_respaced respaced apart apartNodes texts
      (fun _ => location_of_scan returned') returned
    obtain rfl : again = found' := Except.ok.inj (returnedAgain.symm.trans returned')
    exact reports
  · intro bare once next
    exact scan_copied next apart bare printable once returned

open Matcher (sampleCall sampleMatcher)

/-- The sum `a + b`. -/
def sampleSum (tag : Nat) : Value :=
  .ofAttributes tag .binOp [("left", sampleName (tag + 1) "a"),
    ("op", .ofAttributes (tag + 2) .add []), ("right", sampleName (tag + 3) "b"),
    ("lineno", .int tag)]

/-- A file with the one statement `m.f(x)`, for the given argument. -/
def sampleFile (tag : Nat) (argument : Value) : Value :=
  sampleProgram tag (sampleCall (tag + 3) [argument])

/-- On other lines and made of other objects, `m.f(a + b)` is reported alike, and so is its copy. -/
theorem sampleFile_reported_alike :
    ∃ found found', scan (sampleFile 20 (sampleSum 30)) [sampleUnary] = .ok found ∧
      scan (sampleFile 50 (sampleSum 70)) [sampleUnary] = .ok found' ∧ found.length = 1 ∧
      List.Forall₂ Match.SameReport found found' ∧
      ∃ copies, scan ((sampleFile 20 (sampleSum 30)).copied 7) [sampleUnary] = .ok copies ∧
        List.Forall₂ Match.SameReport found copies ∧ ∀ copy ∈ copies, copy.location = .start := by
  obtain ⟨found, returned⟩ :
      ∃ found, scan (sampleFile 20 (sampleSum 30)) [sampleUnary] = .ok found :=
    Outcome.exists_eq_ok (by decide +kernel)
  obtain ⟨found', returned'⟩ :
      ∃ found, scan (sampleFile 50 (sampleSum 70)) [sampleUnary] = .ok found :=
    Outcome.exists_eq_ok (by decide +kernel)
  have respaced : Respaced (sampleFile 20 (sampleSum 30)) (sampleFile 50 (sampleSum 70)) :=
    Value.respaced_of_shape (by rfl) (by decide) (by decide)
  obtain ⟨same, ofCopy⟩ := scan_ignores_positions respaced (by decide +kernel) (by decide +kernel)
    (by decide +kernel) (by decide +kernel) (by decide +kernel) returned returned'
  obtain ⟨copies, copied, sameAsCopy, located⟩ := ofCopy (by decide) (by decide +kernel) 7
  have one : (acceptances (sampleFile 20 (sampleSum 30)) [sampleUnary]).length = 1 := by
    decide +kernel
  exact ⟨found, found', returned, returned', (forall₂_reports returned).length_eq.symm.trans one,
    same.reports, copies, copied, sameAsCopy.reports, located⟩

/-- The file `m.f([(a + b).c, a + b])`, where both sums are one object. -/
def sampleShared : Value :=
  let member := Value.ofAttributes 40 .attributeRef [("value", sampleSum 30), ("attr", .str "c")]
  sampleFile 20 (.ofAttributes 50 .list [("elts", .list 51 [member, sampleSum 30])])

/-- The source texts that a scan binds, match by match. -/
def boundSources (tree : Value) (matchers : List Matcher) : Option (List (List String)) :=
  (scan tree matchers).toOption.map fun found =>
    found.map fun match_ => match_.bindings.map Binding.source

/-- A sum that occurs twice keeps the parentheses that its first place asks for, but its copies are
two sums: so the copy of this tree is reported with another text. -/
theorem copy_of_shared_reported_otherwise :
    Respaced sampleShared (sampleShared.copied 0) ∧ PartsApart sampleShared ∧
      PartsApart (sampleShared.copied 0) ∧
      boundSources sampleShared [sampleUnary] = some [["[(a + b).c, (a + b)]"]] ∧
      boundSources (sampleShared.copied 0) [sampleUnary] = some [["[(a + b).c, a + b]"]] :=
  ⟨Value.respaced_copied 0 (by decide), by decide +kernel⟩

end Scan

end CallSites
