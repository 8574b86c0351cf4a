import CallSites.Proofs.Filling
import CallSites.Proofs.Tree.Walk
import CallSites.Scan
import Mathlib.Data.List.Perm.Basic

/-! # What a scan reports

A scan makes one match for each acceptance: for each call in preorder, for each matcher in the given
order that accepts it. If it returns, its matches stand in the order of the acceptances, and each
holds the call itself, the signature of the matcher, the place of the call and the arguments that
fill parameters. So what one matcher contributes is what it finds alone, and another order of the
matchers only changes the order of the matches of one and the same call.
-/

namespace CallSites

open CallSites.Tree (Value Visit)

theorem Binding.make_eq_ok {parameter : Parameter} {node : Value} {source : String}
    {binding : Binding} : make (some parameter) node source = .ok binding ↔
      node.isExpression = true ∧ binding = ⟨parameter, node, source⟩ := by
  simp only [make]
  split
  · rename_i expression
    rw [Except.ok.injEq, eq_comm]
    exact ⟨fun same => ⟨expression, same⟩, fun both => both.2⟩
  · rename_i expression
    exact ⟨nofun, fun both => absurd both.1 expression⟩

theorem Match.argumentCount_of_arguments? {call : Value} {arguments : List Value}
    (known : Matcher.arguments? call = some arguments) :
    argumentCount call = .ok arguments.length := by
  obtain ⟨-, tag, listed⟩ := Matcher.arguments?_eq_some.mp known
  rw [argumentCount, listed]
  rfl

theorem Match.make_eq_ok {signature : String} {call : Value} {location : Location}
    {bindings : List Binding} {found : Match} :
    make signature call location bindings = .ok found ↔ signature.isEmpty = false ∧
      call.isKind .call = true ∧
      (∃ count, argumentCount call = .ok count ∧ bindings.length ≤ count) ∧
      found = ⟨signature, call, location, bindings⟩ := by
  unfold make
  by_cases empty : signature.isEmpty = true
  · simp [empty]
  by_cases isCall : call.isKind .call = true
  · cases argumentCount call with
    | error fault => simp [empty, isCall]
    | ok count =>
      by_cases room : count < bindings.length
      · simp [empty, isCall, room, Nat.not_le.mpr room]
      · simp only [empty, isCall, room, Bool.not_true, Bool.false_eq_true, if_false,
          Except.ok.injEq, true_and, exists_eq_left', Nat.not_lt.mp room]
        exact eq_comm
  · simp [empty, isCall]

namespace Scan

/-- The calls of a tree, one for each occurrence, in preorder. -/
def calls (tree : Value) : List Value := tree.nodes.filter (Value.isKind .call)

/-- A call together with a matcher that accepts it and the place of that matcher. -/
structure Acceptance where
  call : Value
  matcher : Matcher
  place : Nat

/-- The acceptances of one call, in the order of the matchers. -/
def acceptancesOf (matchers : List Matcher) (call : Value) : List Acceptance :=
  (matchers.zipIdx.filter fun entry => entry.1.test call).map fun entry => ⟨call, entry.1, entry.2⟩

/-- All acceptances of a tree, call by call. -/
def acceptances (tree : Value) (matchers : List Matcher) : List Acceptance :=
  (calls tree).flatMap (acceptancesOf matchers)

/-- A match says what it should of a call and a matcher that accepts it. -/
structure Reports (matcher : Matcher) (call : Value) (found : Match) : Prop where
  sameCall : found.call = call
  sameSignature : found.signature = matcher.signature
  located : Location.of call = .ok found.location
  bound : ∃ tag arguments, call.attr? "args" = some (.list tag arguments) ∧
    found.bindings.map (fun binding => (binding.node, binding.parameter)) =
      arguments.filterMap fun argument => (matcher.parameterOf? argument call).map (argument, ·)
  printed : ∀ binding ∈ found.bindings, binding.node.source = .ok binding.source

/-- The arguments of a reported call, as its bindings were made of them. -/
theorem Reports.bindings_eq {matcher : Matcher} {call func : Value} {arguments : List Value}
    {found : Match} (reports : Reports matcher call found)
    (isCall : Matcher.IsCall call func arguments) :
    found.bindings.map (fun binding => (binding.node, binding.parameter)) =
      arguments.filterMap fun argument =>
        (matcher.parameterOf? argument call).map (argument, ·) := by
  obtain ⟨tag, arguments', listed, bound⟩ := reports.bound
  obtain ⟨tag', listed'⟩ := isCall.listed
  obtain rfl : arguments' = arguments := by
    rw [listed, Option.some.injEq, Value.list.injEq] at listed'
    exact listed'.2
  exact bound

/-- The bindings are those arguments that fill a parameter, in order, with their source texts; all
of these are expressions. -/
theorem bindings_eq_ok {matcher : Matcher} {call : Value} {arguments : List Value}
    {found : List Binding} (success : bindings matcher call arguments = .ok found) :
    found.map (fun binding => (binding.node, binding.parameter)) =
        arguments.filterMap (fun argument =>
          (matcher.parameterOf? argument call).map (argument, ·)) ∧
      (∀ binding ∈ found, binding.node.source = .ok binding.source) ∧
      ∀ binding ∈ found, binding.node.isExpression = true := by
  induction arguments generalizing found with
  | nil =>
    obtain rfl : [] = found := Except.ok.inj success
    simp
  | cons argument rest ih =>
    unfold bindings at success
    cases fills : matcher.parameterOf? argument call with
    | none =>
      rw [fills] at success
      rw [List.filterMap_cons_none (by rw [fills]; rfl)]
      exact ih success
    | some parameter =>
      rw [fills] at success
      simp only [Outcome.bind_eq_ok, Outcome.pure_eq_ok] at success
      obtain ⟨source, printed, binding, made, others, success, rfl⟩ := success
      obtain ⟨filled, sources, expressions⟩ := ih success
      obtain ⟨expression, rfl⟩ := Binding.make_eq_ok.mp made
      rw [List.filterMap_cons_some (by rw [fills]; rfl), List.map_cons, filled]
      exact ⟨rfl, List.forall_mem_cons.mpr ⟨printed, sources⟩,
        List.forall_mem_cons.mpr ⟨expression, expressions⟩⟩

/-- The match that is built of an accepted call reports it. -/
theorem reports_of_buildMatch {matcher : Matcher} {call : Value} {found : Match}
    (accepted : matcher.test call = true) (success : buildMatch matcher call = .ok found) :
    Reports matcher call found := by
  obtain ⟨func, arguments, isCall, -, -⟩ := Matcher.isCall_of_test accepted
  obtain ⟨tag, listed⟩ := isCall.listed
  simp only [buildMatch, Outcome.bind_eq_ok, (Matcher.isCall_iff.mp isCall).2,
    Option.getD_some] at success
  obtain ⟨bound, bindings, location, located, made⟩ := success
  obtain ⟨filled, sources, -⟩ := bindings_eq_ok bindings
  obtain ⟨-, -, -, rfl⟩ := Match.make_eq_ok.mp made
  exact ⟨rfl, rfl, located, ⟨tag, arguments, listed, filled⟩, sources⟩

theorem mem_acceptances {tree : Value} {matchers : List Matcher} {entry : Acceptance}
    (member : entry ∈ acceptances tree matchers) :
    entry.matcher ∈ matchers ∧ entry.matcher.test entry.call = true := by
  obtain ⟨call, -, member⟩ := List.mem_flatMap.mp member
  obtain ⟨numbered, kept, rfl⟩ := List.mem_map.mp member
  obtain ⟨inside, accepted⟩ := List.mem_filter.mp kept
  exact ⟨List.fst_mem_of_mem_zipIdx inside, accepted⟩

/-- The matches of one call are built from its acceptances. -/
theorem matchesOf_eq_mapM (matchers : List Matcher) (call : Value) :
    matchesOf matchers call =
      (acceptancesOf matchers call).mapM fun entry => buildMatch entry.matcher entry.call := by
  have numbered : matchers.filter (fun matcher => matcher.test call) =
      (matchers.zipIdx.filter fun entry => entry.1.test call).map Prod.fst := by
    conv_lhs => rw [← List.zipIdx_map_fst 0 matchers, List.filter_map]
    rfl
  rw [matchesOf, numbered, acceptancesOf, List.mapM_map, List.mapM_map]
  rfl

theorem visits_eq_ok {tree : Value} {visited : List Visit} :
    visits tree = .ok visited ↔ tree.isNode = true ∧ visited = tree.preorder none := by
  unfold visits
  split
  · rename_i isNode
    rw [Tree.Value.walk_eq_preorder, Except.ok.injEq]
    exact ⟨fun same => ⟨isNode, same.symm⟩, fun both => both.2.symm⟩
  · rename_i notNode
    simp [notNode]

/-- A scan of a node builds one match for each acceptance, and fails with the first that fails. -/
theorem scan_eq_mapM {tree : Value} (isNode : tree.isNode = true) (matchers : List Matcher) :
    scan tree matchers =
      (acceptances tree matchers).mapM fun entry => buildMatch entry.matcher entry.call := by
  have visited : visits tree = .ok (tree.preorder none) := visits_eq_ok.mpr ⟨isNode, rfl⟩
  rw [acceptances, Outcome.mapM_flatMap, ← funext (matchesOf_eq_mapM matchers), scan, visited]
  rfl

theorem isNode_of_scan {tree : Value} {matchers : List Matcher} {found : List Match}
    (returned : scan tree matchers = .ok found) : tree.isNode = true := by
  simp only [scan, Outcome.bind_eq_ok, visits_eq_ok] at returned
  obtain ⟨-, ⟨isNode, -⟩, -⟩ := returned
  exact isNode

/-- The matches stand in the order of the acceptances from which they are built. -/
theorem scan_eq_ok {tree : Value} {matchers : List Matcher} {found : List Match} :
    scan tree matchers = .ok found ↔ tree.isNode = true ∧
      List.Forall₂ (fun entry match_ => buildMatch entry.matcher entry.call = .ok match_)
        (acceptances tree matchers) found := by
  constructor
  · intro returned
    have isNode := isNode_of_scan returned
    rw [scan_eq_mapM isNode] at returned
    exact ⟨isNode, Outcome.mapM_eq_ok.mp returned⟩
  · rintro ⟨isNode, built⟩
    rw [scan_eq_mapM isNode]
    exact Outcome.mapM_eq_ok.mpr built

/-- Every acceptance is reported by the match at its place. -/
theorem forall₂_reports {tree : Value} {matchers : List Matcher} {found : List Match}
    (returned : scan tree matchers = .ok found) :
    List.Forall₂ (fun entry match_ => Reports entry.matcher entry.call match_)
      (acceptances tree matchers) found := by
  have built := (List.forall₂_and_left _ _).mpr
    ⟨fun _ => mem_acceptances, (scan_eq_ok.mp returned).2⟩
  exact built.imp fun _ _ ⟨entered, success⟩ => reports_of_buildMatch entered.2 success

/-- The matches whose acceptance is one of the matcher at the given place. -/
def contribution (place : Nat) (entries : List Acceptance) (found : List Match) : List Match :=
  ((entries.zip found).filter fun pair => pair.1.place == place).map Prod.snd

private theorem forall₂_contribution {R : Acceptance → Match → Prop} {entries : List Acceptance}
    {found : List Match} (related : List.Forall₂ R entries found) (place : Nat) :
    List.Forall₂ R (entries.filter fun entry => entry.place == place)
      (contribution place entries found) := by
  unfold contribution
  induction related with
  | nil => exact .nil
  | @cons entry match_ entries found head _ ih =>
    rw [List.zip_cons_cons, List.filter_cons, List.filter_cons]
    split
    · exact .cons head ih
    · exact ih

/-- Of the acceptances of one call those of one matcher are the ones that it has alone. -/
theorem filter_acceptancesOf {matchers : List Matcher} {place : Nat} {matcher : Matcher}
    (present : matchers[place]? = some matcher) (call : Value) :
    (acceptancesOf matchers call).filter (fun entry => entry.place == place) =
      (acceptancesOf [matcher] call).map fun entry => { entry with place } := by
  have swapped : (matchers.zipIdx.filter fun entry => entry.1.test call).filter
      (fun entry => entry.2 == place) =
        [(matcher, place)].filter fun entry => entry.1.test call := by
    rw [← Tree.filter_zipIdx present, List.filter_filter, List.filter_filter]
    simp only [Bool.and_comm]
  rw [acceptancesOf, List.filter_map]
  change ((matchers.zipIdx.filter fun entry => entry.1.test call).filter
    (fun entry => entry.2 == place)).map _ = _
  rw [swapped, acceptancesOf]
  by_cases accepted : matcher.test call = true <;> simp [accepted]

private theorem filter_acceptances {matchers : List Matcher} {place : Nat} {matcher : Matcher}
    (present : matchers[place]? = some matcher) (tree : Value) :
    (acceptances tree matchers).filter (fun entry => entry.place == place) =
      (acceptances tree [matcher]).map fun entry => { entry with place } := by
  simp only [acceptances, List.filter_flatMap, List.map_flatMap, filter_acceptancesOf present]

/-- What a matcher contributes to a scan is what it finds alone. -/
theorem scan_singleton {tree : Value} {matchers : List Matcher} {found : List Match}
    (returned : scan tree matchers = .ok found) {place : Nat} {matcher : Matcher}
    (present : matchers[place]? = some matcher) :
    scan tree [matcher] = .ok (contribution place (acceptances tree matchers) found) := by
  obtain ⟨isNode, built⟩ := scan_eq_ok.mp returned
  have contributed := forall₂_contribution built place
  rw [filter_acceptances present, List.forall₂_map_left_iff] at contributed
  exact scan_eq_ok.mpr ⟨isNode, contributed⟩

/-- The matches of one call, for the matchers in another order. -/
theorem matchesOf_perm {matchers others : List Matcher} (perm : matchers.Perm others) {call : Value}
    {group : List Match} (found : matchesOf matchers call = .ok group) :
    ∃ group', matchesOf others call = .ok group' ∧ group.Perm group' := by
  have accepting := (perm.filter fun matcher => matcher.test call).symm
  obtain ⟨group', built, reordered⟩ :=
    List.perm_comp_forall₂ accepting (Outcome.mapM_eq_ok.mp found)
  exact ⟨group', Outcome.mapM_eq_ok.mpr built, reordered.symm⟩

private theorem forall₂_matchesOf_perm {matchers others : List Matcher}
    (perm : matchers.Perm others) {calls : List Value} {groups : List (List Match)}
    (found : List.Forall₂ (fun call group => matchesOf matchers call = .ok group) calls groups) :
    ∃ groups', List.Forall₂ (fun call group => matchesOf others call = .ok group) calls groups' ∧
      List.Forall₂ List.Perm groups groups' := by
  induction found with
  | nil => exact ⟨[], .nil, .nil⟩
  | cons head _ ih =>
    obtain ⟨group', head', reordered⟩ := matchesOf_perm perm head
    obtain ⟨groups', rest', reorderedRest⟩ := ih
    exact ⟨group' :: groups', .cons head' rest', .cons reordered reorderedRest⟩

private theorem call_of_matchesOf {matchers : List Matcher} {call : Value} {group : List Match}
    (success : matchesOf matchers call = .ok group) : ∀ found ∈ group, found.call = call := by
  intro found member
  obtain ⟨matcher, accepting, built⟩ :=
    Outcome.exists_of_forall₂ (Outcome.mapM_eq_ok.mp success) member
  have accepted := (List.mem_filter.mp accepting).2
  exact (reports_of_buildMatch accepted built).sameCall

/-- A scan returns exactly if the matches of every call can be built, and returns them call by
call. -/
theorem scan_eq_ok_flatten {tree : Value} {matchers : List Matcher} {found : List Match} :
    scan tree matchers = .ok found ↔ tree.isNode = true ∧ ∃ groups,
      List.Forall₂ (fun call group => matchesOf matchers call = .ok group) (calls tree) groups ∧
        found = groups.flatten := by
  simp only [scan, Outcome.bind_eq_ok, Outcome.pure_eq_ok, visits_eq_ok, Outcome.mapM_eq_ok]
  constructor
  · rintro ⟨_, ⟨isNode, rfl⟩, groups, built, rfl⟩
    exact ⟨isNode, groups, built, rfl⟩
  · rintro ⟨isNode, groups, built, rfl⟩
    exact ⟨_, ⟨isNode, rfl⟩, groups, built, rfl⟩

/-- With the matchers in another order a scan returns too, and only the matches of one and the same
call change their order. -/
theorem scan_perm {tree : Value} {matchers others : List Matcher} {found : List Match}
    (returned : scan tree matchers = .ok found) (perm : matchers.Perm others) :
    ∃ groups groups', scan tree others = .ok groups'.flatten ∧ found = groups.flatten ∧
      List.Forall₂ (fun call group => ∀ match_ ∈ group, match_.call = call) (calls tree) groups ∧
      List.Forall₂ List.Perm groups groups' := by
  obtain ⟨isNode, groups, built, rfl⟩ := scan_eq_ok_flatten.mp returned
  obtain ⟨groups', built', reordered⟩ := forall₂_matchesOf_perm perm built
  refine ⟨groups, groups', ?_, rfl, built.imp fun _ _ => call_of_matchesOf, reordered⟩
  exact scan_eq_ok_flatten.mpr ⟨isNode, groups', built', rfl⟩

/-- If a scan returns, its matches are those of the acceptances of the tree, one for each call in
preorder and each matcher that accepts it. What one matcher contributes is what it finds alone, and
in another order the matchers find, call by call, the same matches. -/
theorem scan_reports_acceptances {tree : Value} {matchers : List Matcher} {found : List Match}
    (returned : scan tree matchers = .ok found) :
    List.Forall₂ (fun entry match_ => Reports entry.matcher entry.call match_)
        (acceptances tree matchers) found ∧
      (∀ place matcher, matchers[place]? = some matcher →
        scan tree [matcher] = .ok (contribution place (acceptances tree matchers) found)) ∧
      ∀ others, matchers.Perm others → ∃ groups groups',
        scan tree others = .ok groups'.flatten ∧ found = groups.flatten ∧
        List.Forall₂ (fun call group => ∀ match_ ∈ group, match_.call = call) (calls tree) groups ∧
        List.Forall₂ List.Perm groups groups' :=
  ⟨forall₂_reports returned, fun _ _ present => scan_singleton returned present,
    fun _ perm => scan_perm returned perm⟩

open Matcher (sampleCall sampleMatcher)

/-- The signature `m.f(c)`. -/
def sampleUnary : Matcher where
  call := sampleCall 10 [sampleName 15 "c"]
  signature := "m.f(c)"
  keys := .standard
  parameters := [⟨.str "c", .mandatory⟩]

/-- A file with the one statement `m.f(m.f(x), y)`. -/
def sampleTree : Value :=
  sampleProgram 20 (sampleCall 30 [sampleCall 40 [sampleName 45 "x"], sampleName 46 "y"])

/-- Of the two calls in `m.f(m.f(x), y)` the inner one is accepted by `m.f(a, [b])` and `m.f(c)`,
the outer one by the first alone. -/
theorem sampleTree_reported :
    ∃ found, scan sampleTree [sampleMatcher, sampleUnary] = .ok found ∧ found.length = 3 ∧
      scan sampleTree [sampleUnary] = .ok (contribution 1
        (acceptances sampleTree [sampleMatcher, sampleUnary]) found) := by
  obtain ⟨found, returned⟩ : ∃ found, scan sampleTree [sampleMatcher, sampleUnary] = .ok found :=
    Outcome.exists_eq_ok (by decide +kernel)
  have reported := scan_reports_acceptances returned
  have three : (acceptances sampleTree [sampleMatcher, sampleUnary]).length = 3 := by
    decide +kernel
  exact ⟨found, returned, reported.1.length_eq.symm.trans three, reported.2.1 1 sampleUnary rfl⟩

end Scan

end CallSites
