import CallSites.Proofs.Construction
import CallSites.Proofs.Tree.Depth

/-! # Which calls a matcher accepts

A matcher compares depths before it compares trees, and it compares with a callee that has lost its
marks. Neither changes its answer: where no mark of the two callees holds a node, a value is
accepted exactly if it is a call whose callee equals that of the signature and whose arguments are
as many as the parameters allow. The traversal table, whatever its rows are, does not matter.
-/

namespace CallSites.Matcher

open CallSites.Tree (TraversalKeys Value)

/-- A call with its callee, which has to be a node, and its list of positional arguments. -/
structure IsCall (v func : Value) (arguments : List Value) : Prop where
  isKind : v.isKind .call = true
  callee : v.attr? "func" = some func
  isNode : func.isNode = true
  listed : ∃ tag, v.attr? "args" = some (.list tag arguments)

private theorem callee?_eq_some {v func : Value} :
    callee? v = some func ↔
      v.isKind .call = true ∧ v.attr? "func" = some func ∧ func.isNode = true := by
  unfold callee?
  split <;> simp_all [Option.filter_eq_some_iff]

theorem arguments?_eq_some {v : Value} {arguments : List Value} :
    arguments? v = some arguments ↔
      v.isKind .call = true ∧ ∃ tag, v.attr? "args" = some (.list tag arguments) := by
  unfold arguments?
  split
  · rename_i isCall
    simp only [isCall, true_and, Option.bind_eq_some_iff]
    constructor
    · rintro ⟨holder, held, items⟩
      cases holder with
      | list tag items' =>
        cases items
        exact ⟨tag, held⟩
      | _ => simp [Value.items?] at items
    · rintro ⟨tag, held⟩
      exact ⟨_, held, rfl⟩
  · simp_all

theorem isCall_iff {v func : Value} {arguments : List Value} :
    IsCall v func arguments ↔ callee? v = some func ∧ arguments? v = some arguments := by
  rw [callee?_eq_some, arguments?_eq_some]
  constructor
  · rintro ⟨isKind, callee, isNode, listed⟩
    exact ⟨⟨isKind, callee, isNode⟩, isKind, listed⟩
  · rintro ⟨⟨isKind, callee, isNode⟩, -, listed⟩
    exact ⟨isKind, callee, isNode, listed⟩

/-- The checks in the order in which they are made: depth, callee, number of arguments. -/
theorem test_eq_true {matcher : Matcher} {v : Value} :
    matcher.test v = true ↔ ∃ func arguments, IsCall v func arguments ∧
      func.hasDepth matcher.keys matcher.calleeDepth = true ∧ matcher.callee.equal func = true ∧
      matcher.minArgs ≤ arguments.length ∧ arguments.length ≤ matcher.maxArgs := by
  simp only [isCall_iff, test, matchedArgs?]
  cases callee : callee? v with
  | none => simp
  | some func =>
    cases listed : arguments? v with
    | none => simp
    | some arguments =>
      by_cases same : (func.hasDepth matcher.keys matcher.calleeDepth &&
          matcher.callee.equal func) = true
      · simp only [same, if_true]
        simp_all
      · simp only [same, Bool.false_eq_true, if_false, false_iff]
        rintro ⟨_, _, ⟨⟨⟩, ⟨⟩⟩, depth, equal, -⟩
        exact same (by rw [depth, equal, Bool.and_self])

/-- Comparing depths first never turns an equal callee away. -/
theorem hasDepth_of_equal {matcher : Matcher} {func : Value}
    (equal : matcher.func.equal func = true) (bareSignature : matcher.func.bareMarks = true)
    (bareCallee : func.bareMarks = true) :
    func.hasDepth matcher.keys matcher.calleeDepth = true := by
  have deep : matcher.calleeDepth = func.depth matcher.keys none :=
    Value.depth_eq_of_equal equal bareSignature bareCallee matcher.keys none
  rw [deep]
  exact Value.hasDepth_depth matcher.keys func

/-- A matcher accepts the calls with an equal callee and a suitable number of arguments. -/
theorem test_iff_equal {matcher : Matcher} {v : Value}
    (bareSignature : matcher.func.bareMarks = true)
    (bareCandidate : (v.attr "func").bareMarks = true) :
    matcher.test v = true ↔ ∃ func arguments, IsCall v func arguments ∧
      matcher.minArgs ≤ arguments.length ∧ arguments.length ≤ matcher.maxArgs ∧
      matcher.func.equal func = true := by
  rw [test_eq_true]
  constructor
  · rintro ⟨func, arguments, isCall, -, equal, enough, room⟩
    rw [callee, Value.equal_purify_left] at equal
    exact ⟨func, arguments, isCall, enough, room, equal⟩
  · rintro ⟨func, arguments, isCall, enough, room, equal⟩
    have bareCallee : func.bareMarks = true := by
      simpa only [Value.attr, isCall.callee, Value.reading, Option.getD_some] using bareCandidate
    refine ⟨func, arguments, isCall, hasDepth_of_equal equal bareSignature bareCallee, ?_,
      enough, room⟩
    rw [callee, Value.equal_purify_left]
    exact equal

/-- The table that a matcher uses does not change what it accepts. -/
theorem test_with_keys {matcher : Matcher} {v : Value}
    (bareSignature : matcher.func.bareMarks = true)
    (bareCandidate : (v.attr "func").bareMarks = true) (keys : TraversalKeys) :
    { matcher with keys }.test v = matcher.test v := by
  rw [Bool.eq_iff_iff, test_iff_equal bareSignature bareCandidate]
  exact test_iff_equal bareSignature bareCandidate

/-- A matcher that was compiled with any table accepts a value exactly if it is a call whose callee
is structurally equal to that of the signature and whose arguments are neither too few nor too many.
The comparison of depths turns no equal callee away, the purified callee compares like the original
one, and with any other table the matcher gives the same answer. -/
theorem test_iff_equal_callee {call : Value} {keys : Option TraversalKeys} {matcher : Matcher}
    (built : ofCall call keys = .ok matcher) (v : Value)
    (bareSignature : (call.attr "func").bareMarks = true)
    (bareCandidate : (v.attr "func").bareMarks = true) :
    (matcher.test v = true ↔ ∃ func tag arguments, v.isKind .call = true ∧
        v.attr? "func" = some func ∧ func.isNode = true ∧
        v.attr? "args" = some (.list tag arguments) ∧
        matcher.minArgs ≤ arguments.length ∧ arguments.length ≤ matcher.maxArgs ∧
        (call.attr "func").equal func = true) ∧
      (∀ func : Value, func.bareMarks = true → (call.attr "func").equal func = true →
        func.hasDepth matcher.keys matcher.calleeDepth = true) ∧
      (∀ func, matcher.callee.equal func = (call.attr "func").equal func) ∧
      ∀ other, ∃ twin, ofCall call other = .ok twin ∧ twin.test v = matcher.test v := by
  obtain rfl := call_of_ofCall built
  refine ⟨?_, ?_, ?_, ?_⟩
  · rw [test_iff_equal bareSignature bareCandidate]
    constructor
    · rintro ⟨func, arguments, ⟨isKind, callee, isNode, tag, listed⟩, enough, room, equal⟩
      exact ⟨func, tag, arguments, isKind, callee, isNode, listed, enough, room, equal⟩
    · rintro ⟨func, tag, arguments, isKind, callee, isNode, listed, enough, room, equal⟩
      exact ⟨func, arguments, ⟨isKind, callee, isNode, tag, listed⟩, enough, room, equal⟩
  · intro func bareCallee equal
    exact hasDepth_of_equal equal bareSignature bareCallee
  · intro func
    exact Value.equal_purify_left _ _
  · intro other
    exact ⟨_, ofCall_with_keys built other, test_with_keys bareSignature bareCandidate _⟩

/-- A call of `m.f`, with positions that depend on its tag. -/
def sampleCall (tag : Nat) (arguments : List Value) : Value :=
  let callee := Value.ofAttributes (tag + 1) .attributeRef
    [("value", sampleName (tag + 2) "m"), ("attr", .str "f"), ("lineno", .int (tag + 1))]
  .ofAttributes tag .call [("func", callee), ("args", .list (tag + 3) arguments),
    ("keywords", .list (tag + 4) []), ("lineno", .int (tag + 1)), ("col_offset", .int 0)]

/-- The signature `m.f(a, [b])`, compiled with a table that names a position, a field that does not
exist, and one field twice. -/
def sampleMatcher : Matcher where
  call := sampleCall 0 [sampleName 5 "a",
    .ofAttributes 6 .list [("elts", .list 7 [sampleName 8 "b"])]]
  signature := "m.f(a, [b])"
  keys := ⟨[("Attribute", ["lineno", "value", "nope", "value"])]⟩
  parameters := [⟨.str "a", .mandatory⟩, ⟨.str "b", .optional⟩]

theorem sampleMatcher_built :
    ofCall sampleMatcher.call (some sampleMatcher.keys) = .ok sampleMatcher := rfl

/-- `m.f(x)` on another line is accepted by `m.f(a, [b])`. -/
theorem sampleMatcher_accepts :
    ofCall sampleMatcher.call (some sampleMatcher.keys) = .ok sampleMatcher ∧
    sampleMatcher.test (sampleCall 20 [sampleName 25 "x"]) = true := by
  have accepts := test_iff_equal_callee sampleMatcher_built (sampleCall 20 [sampleName 25 "x"])
    (by decide) (by decide)
  refine ⟨sampleMatcher_built, accepts.1.mpr ?_⟩
  exact ⟨_, _, _, rfl, rfl, rfl, rfl, by decide, by decide, by decide⟩

/-- A call of `m.f` whose callee has an attribute that holds a node with a node below it. -/
def sampleMarked (name : String) : Value :=
  .ofAttributes 4 .call [("func", Value.sampleAttributed name),
    ("args", .list 5 [sampleName 6 "x"]), ("keywords", .list 7 [])]

/-- Positions that hold no nodes are not enough. Where another attribute holds one and the table
names it, an equal callee is turned away, and with the standard table it is accepted. -/
theorem marked_callee_refused :
    ofCall sampleMatcher.call (some sampleMatcher.keys) = .ok sampleMatcher ∧
    (sampleMatcher.call.attr "func").barePositions = true ∧
    ((sampleMarked "nope").attr "func").barePositions = true ∧
    (∃ func tag arguments, (sampleMarked "nope").isKind .call = true ∧
      (sampleMarked "nope").attr? "func" = some func ∧ func.isNode = true ∧
      (sampleMarked "nope").attr? "args" = some (.list tag arguments) ∧
      sampleMatcher.minArgs ≤ arguments.length ∧ arguments.length ≤ sampleMatcher.maxArgs ∧
      (sampleMatcher.call.attr "func").equal func = true) ∧
    sampleMatcher.test (sampleMarked "nope") = false ∧
    ∃ twin, ofCall sampleMatcher.call none = .ok twin ∧ twin.test (sampleMarked "nope") = true := by
  refine ⟨sampleMatcher_built, by decide +kernel, by decide +kernel, ?_, by decide +kernel, ?_⟩
  · exact ⟨_, _, _, rfl, rfl, rfl, rfl, by decide, by decide, by decide⟩
  · exact ⟨_, ofCall_with_keys sampleMatcher_built none, by decide +kernel⟩

end CallSites.Matcher
