import CallSites.Proofs.Reporting
import CallSites.Proofs.Source.ParsedFile
import CallSites.Proofs.Tree.Printer.Written

/-! # Scans that return

A scan makes bindings, locations and matches, and each of them is only made if it passes its checks.
None of the checks fails in a tree whose calls can be reported: a matcher only accepts calls with a
callee and a list of arguments, it has a signature that is not empty, and it binds an argument at
most once. So the scan returns whatever else the tree holds, and a match binds all arguments of its
call if they and the callee are different objects.
-/

namespace CallSites

open CallSites.Tree (TraversalKeys Value)

/-- Whether a call can be reported: where its arguments are a list, they are expressions, and the
call is placed. -/
def Tree.Value.isReportable (call : Value) : Bool :=
  match call.attr? "args" with
  | some (.list _ arguments) => arguments.all isExpression && call.isPlaced
  | _ => true

theorem Tree.Value.isReportable_eq_true {call : Value} {tag : Nat} {arguments : List Value}
    (listed : call.attr? "args" = some (.list tag arguments)) :
    call.isReportable = true ↔
      (∀ argument ∈ arguments, argument.isExpression = true) ∧ call.isPlaced = true := by
  simp only [isReportable, listed, Bool.and_eq_true, List.all_eq_true]

/-- The calls of a parsed text can be reported. -/
theorem Source.isReportable_of_parseFile {tag free : Nat} {text : String} {tree : Value}
    (parsed : parseFile tag text = .ok (tree, free)) :
    ∀ call ∈ Scan.calls tree, call.isReportable = true := by
  intro call called
  obtain ⟨member, isCall⟩ := List.mem_filter.mp called
  have built := isRegular_of_parseFile parsed call member
  cases held : call.attr? "args" with
  | none => rw [Value.isReportable, held]
  | some holder =>
    cases holder with
    | list tag arguments =>
      have typed := Value.hasTypedParts_of_isRegular built isCall
      rw [Value.hasTypedParts, Matcher.arguments?_eq_some.mpr ⟨isCall, tag, held⟩,
        Option.getD_some, Bool.and_eq_true, List.all_eq_true] at typed
      exact (Value.isReportable_eq_true held).mpr
        ⟨typed.1, Value.isPlaced_of_isRegular built isCall⟩
    | _ => rw [Value.isReportable, held]

/-- The signature of a constructed matcher is the text of a call, which is not empty. -/
theorem Matcher.isEmpty_signature {call : Value} {keys : Option TraversalKeys} {matcher : Matcher}
    (built : ofCall call keys = .ok matcher) : matcher.signature.isEmpty = false := by
  obtain ⟨valid, _, _, -, -, -, printed, -, -⟩ := ofCall_eq_ok.mp built
  exact Value.isEmpty_source (Signature.validate_eq_ok valid).1 printed

namespace Scan

open Matcher (IsCall ObjectsApart)

theorem call_mem_of_acceptances {tree : Value} {matchers : List Matcher} {entry : Acceptance}
    (member : entry ∈ acceptances tree matchers) : entry.call ∈ calls tree := by
  obtain ⟨call, called, inside⟩ := List.mem_flatMap.mp member
  obtain ⟨_, -, rfl⟩ := List.mem_map.mp inside
  exact called

/-! ### One match -/

/-- Arguments that are expressions with a text can be bound, each at most once. -/
theorem exists_bindings (matcher : Matcher) (call : Value) {arguments : List Value}
    (expressions : ∀ argument ∈ arguments, argument.isExpression = true)
    (print : ∀ argument ∈ arguments, ∃ text, argument.source = .ok text) :
    ∃ found, bindings matcher call arguments = .ok found ∧ found.length ≤ arguments.length := by
  induction arguments with
  | nil => exact ⟨[], rfl, Nat.le_refl _⟩
  | cons argument rest ih =>
    rw [List.forall_mem_cons] at expressions print
    obtain ⟨others, bound, fewer⟩ := ih expressions.2 print.2
    cases fills : matcher.parameterOf? argument call with
    | none =>
      refine ⟨others, ?_, Nat.le_succ_of_le fewer⟩
      rw [bindings, fills]
      exact bound
    | some parameter =>
      obtain ⟨text, printed⟩ := print.1
      refine ⟨⟨parameter, argument, text⟩ :: others, ?_, Nat.succ_le_succ fewer⟩
      have made : Binding.make (some parameter) argument text = .ok ⟨parameter, argument, text⟩ :=
        Binding.make_eq_ok.mpr ⟨expressions.1, rfl⟩
      simp only [bindings, fills, Outcome.bind_eq_ok, Outcome.pure_eq_ok]
      exact ⟨text, printed, _, made, others, bound, rfl⟩

/-- A call with a location whose arguments can be bound has a match. -/
theorem exists_buildMatch {matcher : Matcher} {call : Value} {arguments : List Value}
    (named : matcher.signature.isEmpty = false)
    (known : Matcher.arguments? call = some arguments)
    (expressions : ∀ argument ∈ arguments, argument.isExpression = true)
    (print : ∀ argument ∈ arguments, ∃ text, argument.source = .ok text)
    (located : ∃ location, Location.of call = .ok location) :
    ∃ found, buildMatch matcher call = .ok found := by
  obtain ⟨isCall, tag, listed⟩ := Matcher.arguments?_eq_some.mp known
  obtain ⟨found, bound, fewer⟩ := exists_bindings matcher call expressions print
  obtain ⟨location, located⟩ := located
  refine ⟨⟨matcher.signature, call, location, found⟩, ?_⟩
  simp only [buildMatch, known, Option.getD_some, Outcome.bind_eq_ok]
  exact ⟨found, bound, location, located,
    Match.make_eq_ok.mpr
      ⟨named, isCall, ⟨arguments.length, Match.argumentCount_of_arguments? known, fewer⟩, rfl⟩⟩

/-! ### How many arguments are bound -/

/-- There is one binding for each argument that fills a parameter. -/
theorem Reports.length_bindings {matcher : Matcher} {call func : Value} {arguments : List Value}
    {found : Match} (reports : Reports matcher call found) (isCall : IsCall call func arguments) :
    found.bindings.length =
      arguments.countP fun argument => (matcher.parameterOf? argument call).isSome := by
  have lengths := congrArg List.length (reports.bindings_eq isCall)
  rw [List.length_map, List.length_filterMap_eq_countP] at lengths
  simpa only [Option.isSome_map] using lengths

/-- Different objects are all bound. -/
theorem Reports.length_bindings_of_apart {matcher : Matcher} {call func : Value}
    {arguments : List Value} {found : Match} (reports : Reports matcher call found)
    (accepted : matcher.test call = true) (isCall : IsCall call func arguments)
    (apart : ObjectsApart func arguments) : found.bindings.length = arguments.length := by
  rw [reports.length_bindings isCall, List.countP_eq_length]
  intro argument among
  have filled := List.mem_map_of_mem
    (f := fun argument => matcher.parameterOf? argument call) among
  rw [Matcher.map_parameterOf? accepted isCall apart] at filled
  obtain ⟨parameter, -, fills⟩ := List.mem_map.mp filled
  rw [← fills]
  rfl

/-! ### All calls -/

/-- A scan returns if the accepted calls have locations, and arguments that can be bound. -/
theorem exists_scan_of_reportable {tree : Value} {matchers : List Matcher}
    (isNode : tree.isNode = true)
    (built : ∀ matcher ∈ matchers, ∃ call keys, Matcher.ofCall call keys = .ok matcher)
    (reportable : ∀ call ∈ calls tree, call.isReportable = true)
    (print : ∀ entry ∈ acceptances tree matchers, ∀ func arguments,
      IsCall entry.call func arguments → ∀ argument ∈ arguments,
        ∃ text, argument.source = .ok text) :
    ∃ found, scan tree matchers = .ok found := by
  rw [scan_eq_mapM isNode]
  apply Outcome.exists_mapM_eq_ok
  intro entry member
  obtain ⟨among, accepted⟩ := mem_acceptances member
  obtain ⟨call, keys, constructed⟩ := built _ among
  obtain ⟨func, arguments, isCall, -, -⟩ := Matcher.isCall_of_test accepted
  obtain ⟨tag, listed⟩ := isCall.listed
  obtain ⟨expressions, placed⟩ := (Value.isReportable_eq_true listed).mp
    (reportable _ (call_mem_of_acceptances member))
  exact exists_buildMatch (Matcher.isEmpty_signature constructed) (Matcher.isCall_iff.mp isCall).2
    expressions (print entry member func arguments isCall) (Location.exists_of_isPlaced placed)

/-- A scan with constructed matchers returns if the calls of its tree can be reported, as those of
every parsed text can, and the arguments of accepted calls have texts. Each acceptance is reported
by a match with at most as many bindings as the call has arguments, and with as many if its callee
and its arguments are different objects. -/
theorem scan_returns_bound_matches :
    (∀ tag text tree free, Source.parseFile tag text = .ok (tree, free) →
      ∀ call ∈ calls tree, call.isReportable = true) ∧
    ∀ tree matchers, tree.isNode = true →
      (∀ matcher ∈ matchers, ∃ call keys, Matcher.ofCall call keys = .ok matcher) →
      (∀ call ∈ calls tree, call.isReportable = true) →
      (∀ entry ∈ acceptances tree matchers, ∀ func arguments, IsCall entry.call func arguments →
        ∀ argument ∈ arguments, ∃ text, argument.source = .ok text) →
      ∃ found, scan tree matchers = .ok found ∧
        List.Forall₂ (fun entry match_ => Reports entry.matcher entry.call match_ ∧
          ∃ func arguments, IsCall entry.call func arguments ∧
            match_.bindings.length ≤ arguments.length ∧
            (ObjectsApart func arguments → match_.bindings.length = arguments.length))
          (acceptances tree matchers) found := by
  refine ⟨fun _ _ _ _ => Source.isReportable_of_parseFile, ?_⟩
  intro tree matchers isNode built reportable print
  obtain ⟨found, returned⟩ := exists_scan_of_reportable isNode built reportable print
  refine ⟨found, returned, ?_⟩
  have reported := (List.forall₂_and_left _ _).mpr
    ⟨fun _ => mem_acceptances, forall₂_reports returned⟩
  refine reported.imp ?_
  rintro entry match_ ⟨⟨-, accepted⟩, reports⟩
  obtain ⟨func, arguments, isCall, -, -⟩ := Matcher.isCall_of_test accepted
  refine ⟨reports, func, arguments, isCall, ?_, ?_⟩
  · rw [reports.length_bindings isCall]
    exact List.countP_le_length
  · exact reports.length_bindings_of_apart accepted isCall

open Matcher (sampleMatcher)

/-- The file `m.f(m.f(x), y)` beside three odd calls: one without a callee, one without arguments,
and one on no line of any text whose arguments are no list. -/
def sampleOdd : Value :=
  .ofAttributes 50 .file [("body", .list 51 [sampleTree,
    .ofAttributes 52 .call [("args", .list 53 [sampleName 54 "x"])],
    .ofAttributes 55 .call [("func", sampleName 56 "g"), ("lineno", .int 0)],
    .ofAttributes 57 .call [("func", sampleName 58 "g"), ("args", .str "x"), ("lineno", .int 0)]])]

/-- The odd calls are no matter: the three acceptances of the file are reported. -/
theorem sampleOdd_returns :
    (calls sampleOdd).length = 5 ∧ (calls sampleOdd).all Value.isReportable = true ∧
      ∃ found, scan sampleOdd [sampleMatcher, sampleUnary] = .ok found ∧ found.length = 3 := by
  have reportable : (calls sampleOdd).all Value.isReportable = true := by decide +kernel
  have built : ∀ matcher ∈ [sampleMatcher, sampleUnary],
      ∃ call keys, Matcher.ofCall call keys = .ok matcher := by
    rw [List.forall_mem_cons, List.forall_mem_singleton]
    exact ⟨⟨_, _, Matcher.sampleMatcher_built⟩, ⟨sampleUnary.call, some sampleUnary.keys, rfl⟩⟩
  have printed : (acceptances sampleOdd [sampleMatcher, sampleUnary]).all (fun entry =>
      (Matcher.arguments? entry.call).all fun arguments =>
        arguments.all fun argument => argument.source.isOk) = true := by decide +kernel
  refine ⟨by decide +kernel, reportable, ?_⟩
  obtain ⟨found, returned, reported⟩ := scan_returns_bound_matches.2 sampleOdd
    [sampleMatcher, sampleUnary] rfl built (List.all_eq_true.mp reportable) (by
      intro entry member func arguments isCall argument among
      have each := List.all_eq_true.mp printed entry member
      rw [(Matcher.isCall_iff.mp isCall).2, Option.all_some, List.all_eq_true] at each
      exact Outcome.exists_eq_ok (each argument among))
  have three : (acceptances sampleOdd [sampleMatcher, sampleUnary]).length = 3 := by
    decide +kernel
  exact ⟨found, returned, reported.length_eq.symm.trans three⟩

end Scan

end CallSites
