import CallSites.Proofs.Acceptance
import CallSites.Proofs.Tree.Equivalence

/-! # What a matcher accepts determines its callee and its bounds

Two matchers accept the same calls exactly when their callees are structurally equal and they allow
the same numbers of arguments; names and order of the parameters and the traversal tables do not
matter. One direction needs equality to be symmetric and transitive. For the other the callee of a
matcher is put into a call with any number of arguments, which tells every difference apart. It is a
node, since printing has to succeed when a matcher is built.
-/

namespace CallSites

open CallSites.Tree (TraversalKeys Value)

namespace Tree.Printer

theorem bind_eq_ok {α β : Type} {first : Print α} {next : α → Print β} {out out' : Output}
    {result : β} :
    (first >>= next).run out = .ok (result, out') ↔
      ∃ value middle, first.run out = .ok (value, middle) ∧
        (next value).run middle = .ok (result, out') := by
  rw [StateT.run_bind]
  cases first.run out with
  | error why => simp [bind, Except.bind]
  | ok both => simp [bind, Except.bind, Prod.ext_iff]

private theorem attr_eq_ok {v w : Value} {name : String} {out out' : Output}
    (success : (attr v name).run out = .ok (w, out')) : v.attr? name = some w := by
  unfold attr at success
  split at success
  · cases success
    assumption
  · cases success

/-- Only a node can be printed after a level was asked for it. -/
theorem isNode_of_print {bound : Nat} {level : Level} {v : Value} {out middle out' : Output}
    (levelled : (ask level v).run out = .ok ((), middle))
    (printed : (print bound .whole v).run middle = .ok ((), out')) : v.isNode = true := by
  cases v with
  | node => rfl
  | list => cases levelled
  | plain => cases bound <;> cases printed

/-- A call that can be printed has a callee. -/
theorem callee_of_print {bound : Nat} {v : Value} {out out' : Output}
    (isKind : v.isKind .call = true)
    (printed : (print bound .whole v).run out = .ok ((), out')) :
    ∃ func, v.attr? "func" = some func ∧ func.isNode = true := by
  cases v with
  | node tag kind slots marks =>
    obtain rfl : kind = .call := by simpa [Value.isKind, Value.kind?] using isKind
    cases bound with
    | zero => cases printed
    | succ bound =>
      have opened : (call (print bound .whole) (.node tag .call slots marks)).run out =
        .ok ((), out') := printed
      simp only [call, bind_eq_ok] at opened
      obtain ⟨func, _, held, _, _, levelled, _, _, printed, -⟩ := opened
      exact ⟨func, attr_eq_ok held, isNode_of_print levelled printed⟩
  | _ => cases isKind

end Tree.Printer

theorem Tree.Value.callee_of_source {v : Value} {text : String} (isKind : v.isKind .call = true)
    (printed : v.source = .ok text) : ∃ func, v.attr? "func" = some func ∧ func.isNode = true := by
  cases ended : (Printer.printAll v).run {} with
  | ok both =>
    obtain ⟨_, _, printed, -⟩ := Printer.bind_eq_ok.mp ended
    exact Printer.callee_of_print isKind printed
  | error why =>
    rw [source, ended] at printed
    cases printed

namespace Matcher

theorem minArgs_le_maxArgs (matcher : Matcher) : matcher.minArgs ≤ matcher.maxArgs :=
  List.countP_le_length

/-- The callee of a constructed matcher is a node. -/
theorem callee_of_ofCall {call : Value} {keys : Option TraversalKeys} {matcher : Matcher}
    (built : ofCall call keys = .ok matcher) :
    call.attr? "func" = some matcher.func ∧ matcher.func.isNode = true := by
  obtain ⟨valid, -, -, -, -, -, printed, rfl, -⟩ := ofCall_eq_ok.mp built
  obtain ⟨isKind, -⟩ := Signature.validate_eq_ok valid
  obtain ⟨func, held, isNode⟩ := Value.callee_of_source isKind printed
  have same : matcher.func = func := by
    rw [Matcher.func, Value.attr, held, Value.reading, Option.getD_some]
  rw [same]
  exact ⟨held, isNode⟩

/-- A call of a callee with a number of arguments that are all null. -/
def callWith (func : Value) (count : Nat) : Value :=
  .node 0 .call [some func, some (.list 0 (.replicate count .null)), some (.list 0 [])] []

private theorem isCall_callWith {func : Value} (isNode : func.isNode = true) (count : Nat) :
    IsCall (callWith func count) func (.replicate count .null) :=
  ⟨rfl, rfl, isNode, 0, rfl⟩

/-- A matcher accepts a call that was made up from a callee if the callee is equal to its own and
the number of arguments suits it. -/
theorem test_callWith {matcher : Matcher} {func : Value} {count : Nat}
    (isNode : func.isNode = true) (bareSignature : matcher.func.bareMarks = true)
    (bareCallee : func.bareMarks = true) :
    matcher.test (callWith func count) = true ↔
      matcher.minArgs ≤ count ∧ count ≤ matcher.maxArgs ∧ matcher.func.equal func = true := by
  have isCall := isCall_callWith isNode count
  have bareCandidate : ((callWith func count).attr "func").bareMarks = true := bareCallee
  rw [test_iff_equal bareSignature bareCandidate]
  constructor
  · rintro ⟨func', arguments, other, enough, room, equal⟩
    obtain rfl : func = func' := Option.some.inj (isCall.callee.symm.trans other.callee)
    obtain ⟨_, listed⟩ := isCall.listed
    obtain ⟨_, listed'⟩ := other.listed
    cases listed.symm.trans listed'
    rw [List.length_replicate] at enough room
    exact ⟨enough, room, equal⟩
  · rintro ⟨enough, room, equal⟩
    refine ⟨func, _, isCall, ?_, ?_, equal⟩
    · rwa [List.length_replicate]
    · rwa [List.length_replicate]

/-- Two matchers with equal callees and the same bounds. -/
structure Alike (first second : Matcher) : Prop where
  callee : first.func.equal second.func = true
  minArgs : first.minArgs = second.minArgs
  maxArgs : first.maxArgs = second.maxArgs

section

variable {first second : Matcher}

/-- Matchers that agree on all calls made up from the callee of the first are alike. -/
theorem alike_of_test_eq (isNode : first.func.isNode = true)
    (bareFirst : first.func.bareMarks = true) (bareSecond : second.func.bareMarks = true)
    (nanFree : first.func.nanFree = true)
    (agree : ∀ count, first.test (callWith first.func count) =
      second.test (callWith first.func count)) : Alike first second := by
  have self : first.func.equal first.func = true := (Value.equal_self _).trans nanFree
  have bounds : ∀ count, (first.minArgs ≤ count ∧ count ≤ first.maxArgs) ↔
      second.minArgs ≤ count ∧ count ≤ second.maxArgs ∧ second.func.equal first.func = true := by
    intro count
    rw [← test_callWith isNode bareSecond bareFirst, ← agree count,
      test_callWith isNode bareFirst bareFirst]
    simp [self]
  have ordered := first.minArgs_le_maxArgs
  have ordered' := second.minArgs_le_maxArgs
  have atMin := (bounds first.minArgs).mp ⟨Nat.le_refl _, ordered⟩
  have atMax := (bounds first.maxArgs).mp ⟨ordered, Nat.le_refl _⟩
  have atMin' := (bounds second.minArgs).mpr ⟨Nat.le_refl _, ordered', atMin.2.2⟩
  have atMax' := (bounds second.maxArgs).mpr ⟨ordered', Nat.le_refl _, atMin.2.2⟩
  refine ⟨(Value.equal_comm _ _).trans atMin.2.2, ?_, ?_⟩
  · omega
  · omega

/-- Equal callees are equal to the same trees. -/
theorem Alike.equal_eq (alike : Alike first second) (func : Value) :
    first.func.equal func = second.func.equal func := by
  have back : second.func.equal first.func = true := (Value.equal_comm _ _).trans alike.callee
  rw [Bool.eq_iff_iff]
  exact ⟨Value.equal_trans back, Value.equal_trans alike.callee⟩

/-- Matchers that are alike agree on every value whose callee has bare marks. -/
theorem Alike.test_eq (alike : Alike first second) (bareFirst : first.func.bareMarks = true)
    (bareSecond : second.func.bareMarks = true) {v : Value}
    (bareCandidate : (v.attr "func").bareMarks = true) : first.test v = second.test v := by
  rw [Bool.eq_iff_iff, test_iff_equal bareFirst bareCandidate,
    test_iff_equal bareSecond bareCandidate, alike.minArgs, alike.maxArgs]
  simp only [alike.equal_eq]

/-- Matchers that are alike and measure depths by one table agree on every value. -/
theorem Alike.test_eq_of_keys (alike : Alike first second)
    (bareFirst : first.func.bareMarks = true) (bareSecond : second.func.bareMarks = true)
    (keys : first.keys = second.keys) (v : Value) : first.test v = second.test v := by
  have depth : first.calleeDepth = second.calleeDepth := by
    rw [calleeDepth, calleeDepth, keys]
    exact Value.depth_eq_of_equal alike.callee bareFirst bareSecond second.keys none
  rw [Bool.eq_iff_iff, test_eq_true, test_eq_true, alike.minArgs, alike.maxArgs, depth, keys]
  simp only [Matcher.callee, Value.equal_purify_left, alike.equal_eq]

end

/-- A matcher accepts the call that it was made of, provided that its arguments are a list. -/
theorem test_own_call {call : Value} {keys : Option TraversalKeys} {matcher : Matcher}
    (built : ofCall call keys = .ok matcher) (bare : matcher.func.bareMarks = true)
    (nanFree : matcher.func.nanFree = true) :
    matcher.test call = true ↔ ∃ tag arguments, call.attr? "args" = some (.list tag arguments) := by
  obtain ⟨held, isNode⟩ := callee_of_ofCall built
  have same : call.attr "func" = matcher.func := by
    rw [Value.attr, held, Value.reading, Option.getD_some]
  rw [test_iff_equal bare (same ▸ bare)]
  constructor
  · rintro ⟨_, arguments, isCall, -⟩
    obtain ⟨tag, listed⟩ := isCall.listed
    exact ⟨tag, arguments, listed⟩
  · rintro ⟨tag, arguments, listed⟩
    obtain ⟨valid, holder, arguments', held', elements, declares, -⟩ := ofCall_eq_ok.mp built
    obtain ⟨isKind, -⟩ := Signature.validate_eq_ok valid
    obtain rfl : .list tag arguments = holder := Option.some.inj (listed.symm.trans held')
    obtain rfl : arguments = arguments' := Except.ok.inj elements
    have length : arguments.length = matcher.maxArgs := (Outcome.mapM_eq_ok.mp declares).length_eq
    refine ⟨matcher.func, arguments, ⟨isKind, held, isNode, tag, listed⟩, ?_, Nat.le_of_eq length,
      (Value.equal_self _).trans nanFree⟩
    rw [length]
    exact matcher.minArgs_le_maxArgs

/-- Two matchers with parameters of any names and in any order and with any traversal tables, where
the callees have bare marks and the first is free of NaN: they agree on every value whose callee has
bare marks, and on all others too if their tables are the same, exactly if their callees are
structurally equal and their bounds are the same. A matcher accepts the call that it was made of
exactly if the arguments of that call are a list. -/
theorem test_eq_iff_alike {call call' : Value} {keys keys' : Option TraversalKeys}
    {first second : Matcher} (built : ofCall call keys = .ok first)
    (built' : ofCall call' keys' = .ok second) (nanFree : (call.attr "func").nanFree = true)
    (bare : (call.attr "func").bareMarks = true) (bare' : (call'.attr "func").bareMarks = true) :
    ((∀ v : Value, ((v.attr "func").bareMarks = true ∨ first.keys = second.keys) →
        first.test v = second.test v) ↔
      (call.attr "func").equal (call'.attr "func") = true ∧ first.minArgs = second.minArgs ∧
        first.maxArgs = second.maxArgs) ∧
      (first.test call = true ↔
        ∃ tag arguments, call.attr? "args" = some (.list tag arguments)) := by
  refine ⟨⟨?_, ?_⟩, ?_⟩
  · intro agree
    obtain ⟨-, isNode⟩ := callee_of_ofCall built
    obtain rfl := call_of_ofCall built
    obtain rfl := call_of_ofCall built'
    have alike := alike_of_test_eq isNode bare bare' nanFree fun count => agree _ (.inl bare)
    exact ⟨alike.callee, alike.minArgs, alike.maxArgs⟩
  · obtain rfl := call_of_ofCall built
    obtain rfl := call_of_ofCall built'
    rintro ⟨callee, minArgs, maxArgs⟩ v (bareCandidate | table)
    · exact Alike.test_eq ⟨callee, minArgs, maxArgs⟩ bare bare' bareCandidate
    · exact Alike.test_eq_of_keys ⟨callee, minArgs, maxArgs⟩ bare bare' table v
  · obtain rfl := call_of_ofCall built
    exact test_own_call built bare nanFree

/-- The signature `m.f([x], y)`, compiled with the standard table. -/
def sampleTwin : Matcher where
  call := sampleCall 40 [.ofAttributes 45 .list [("elts", .list 46 [sampleName 47 "x"])],
    sampleName 48 "y"]
  signature := "m.f([x], y)"
  keys := .standard
  parameters := [⟨.str "x", .optional⟩, ⟨.str "y", .mandatory⟩]

private theorem sampleTwin_built : ofCall sampleTwin.call none = .ok sampleTwin := rfl

/-- `m.f(a, [b])` and `m.f([x], y)` accept the same calls, though with other names in another order
and with other tables, and the first accepts itself. -/
theorem sampleMatcher_alike :
    ofCall sampleMatcher.call (some sampleMatcher.keys) = .ok sampleMatcher ∧
    ofCall sampleTwin.call none = .ok sampleTwin ∧
    (∀ v : Value, (v.attr "func").bareMarks = true → sampleMatcher.test v = sampleTwin.test v) ∧
    sampleMatcher.test sampleMatcher.call = true := by
  obtain ⟨agree, own⟩ :=
    test_eq_iff_alike sampleMatcher_built sampleTwin_built (by decide) (by decide) (by decide)
  refine ⟨sampleMatcher_built, sampleTwin_built, ?_, own.mpr ⟨_, _, rfl⟩⟩
  intro v bareCandidate
  exact agree.mpr ⟨by decide, by decide, by decide⟩ v (.inl bareCandidate)

/-- A call without arguments, where the empty text takes the place of the empty list. -/
def sampleUnlisted : Value :=
  .ofAttributes 0 .call [("func", sampleName 1 "f"), ("args", .str ""), ("keywords", .list 2 [])]

/-- A matcher can be made of a call that it does not accept: the arguments of that call are no list.
And matchers with one callee and the same bounds can disagree: where an attribute of a callee that
is no field holds a node and one table leads there, the depths differ. The attribute may be a
position or any other, so that no position holds a node. -/
theorem alike_matchers_disagree :
    (∃ matcher, ofCall sampleUnlisted none = .ok matcher ∧ matcher.func.nanFree = true ∧
      matcher.func.bareMarks = true ∧ matcher.test sampleUnlisted = false) ∧
    ofCall sampleMatcher.call (some sampleMatcher.keys) = .ok sampleMatcher ∧
    ofCall sampleTwin.call none = .ok sampleTwin ∧
    sampleMatcher.func.nanFree = true ∧ sampleTwin.func.nanFree = true ∧
    sampleMatcher.func.bareMarks = true ∧ sampleTwin.func.bareMarks = true ∧
    sampleMatcher.func.equal sampleTwin.func = true ∧
    sampleMatcher.minArgs = sampleTwin.minArgs ∧ sampleMatcher.maxArgs = sampleTwin.maxArgs ∧
    (∀ name ∈ ["lineno", "nope"], sampleMatcher.test (sampleMarked name) = false ∧
      sampleTwin.test (sampleMarked name) = true) ∧
    ((sampleMarked "nope").attr "func").barePositions = true := by
  refine ⟨⟨⟨sampleUnlisted, "f()", .standard, []⟩, rfl, by decide, by decide, rfl⟩,
    sampleMatcher_built, sampleTwin_built, ?_⟩
  decide +kernel

end Matcher

end CallSites
