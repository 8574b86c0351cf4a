import CallSites.Proofs.Acceptance

/-! # Which parameter an argument fills

A call fills every mandatory parameter and, with the arguments left over, the first optional ones.
`Parameter.keep` says this by position; the matcher finds the same list by counting down. For an
accepted call the list is as long as the arguments, so every argument finds its parameter there. One
more argument fills one more parameter: the first optional one that was left out.
-/

namespace CallSites

open CallSites.Tree (TraversalKeys Value)

namespace Parameter

/-- Whether the parameter at a place stays when every mandatory one and the first `spare` optional
ones do: it is mandatory, or fewer than `spare` optional ones stand before it. -/
def isKept (spare : Nat) (parameters : List Parameter) (entry : Parameter × Nat) : Bool :=
  !entry.1.isOptional || decide ((parameters.take entry.2).countP isOptional < spare)

/-- Every mandatory parameter and the first `spare` optional ones, in declared order. -/
def keep (spare : Nat) (parameters : List Parameter) : List Parameter :=
  (parameters.zipIdx.filter (isKept spare parameters)).map Prod.fst

private theorem keep_cons (spare : Nat) (first : Parameter) (rest : List Parameter) :
    keep spare (first :: rest) =
      (if isKept spare (first :: rest) (first, 0) then [first] else []) ++
        (rest.zipIdx.filter fun entry =>
          isKept spare (first :: rest) (entry.1, entry.2 + 1)).map Prod.fst := by
  rw [keep, List.zipIdx_cons, List.zipIdx_succ, List.filter_cons, List.filter_map]
  by_cases kept : isKept spare (first :: rest) (first, 0) = true
  · rw [if_pos kept, if_pos kept, List.map_cons, List.map_map]
    rfl
  · rw [if_neg kept, if_neg kept, List.map_map]
    rfl

private theorem keep_cons_mandatory {first : Parameter} (mandatory : first.isOptional = false)
    (spare : Nat) (rest : List Parameter) :
    keep spare (first :: rest) = first :: keep spare rest := by
  have shifted : (fun entry : Parameter × Nat =>
      isKept spare (first :: rest) (entry.1, entry.2 + 1)) = isKept spare rest := by
    funext entry
    simp [isKept, mandatory]
  rw [keep_cons, shifted]
  simp [isKept, mandatory, keep]

private theorem keep_cons_optional_zero {first : Parameter} (optional : first.isOptional = true)
    (rest : List Parameter) : keep 0 (first :: rest) = keep 0 rest := by
  have shifted : (fun entry : Parameter × Nat =>
      isKept 0 (first :: rest) (entry.1, entry.2 + 1)) = isKept 0 rest := by
    funext entry
    simp [isKept]
  rw [keep_cons, shifted]
  simp [isKept, optional, keep]

private theorem keep_cons_optional_succ {first : Parameter} (optional : first.isOptional = true)
    (spare : Nat) (rest : List Parameter) :
    keep (spare + 1) (first :: rest) = first :: keep spare rest := by
  have shifted : (fun entry : Parameter × Nat =>
      isKept (spare + 1) (first :: rest) (entry.1, entry.2 + 1)) = isKept spare rest := by
    funext entry
    simp [isKept, optional]
  rw [keep_cons, shifted]
  simp [isKept, optional, keep]

end Parameter

namespace Matcher

/-- Counting down the spare arguments keeps the first optional parameters. -/
theorem fill_eq_keep (spare : Nat) (parameters : List Parameter) :
    fill spare parameters = Parameter.keep spare parameters := by
  induction parameters generalizing spare with
  | nil => rfl
  | cons first rest ih =>
    cases optional : first.isOptional with
    | false => rw [Parameter.keep_cons_mandatory optional, ← ih]; simp [fill, optional]
    | true =>
      cases spare with
      | zero => rw [Parameter.keep_cons_optional_zero optional, ← ih]; simp [fill, optional]
      | succ spare => rw [Parameter.keep_cons_optional_succ optional, ← ih]; simp [fill, optional]

private theorem filled_eq_keep (matcher : Matcher) (count : Nat) :
    matcher.filled count = Parameter.keep (count - matcher.minArgs) matcher.parameters :=
  fill_eq_keep _ _

end Matcher

namespace Parameter

private theorem keep_sublist (spare : Nat) (parameters : List Parameter) :
    (keep spare parameters).Sublist parameters := by
  have all : parameters.zipIdx.map Prod.fst = parameters := by simp
  calc (keep spare parameters).Sublist (parameters.zipIdx.map Prod.fst) :=
        List.Sublist.map _ List.filter_sublist
    _ = parameters := all

private theorem mem_keep_of_mandatory {spare : Nat} {parameters : List Parameter}
    {parameter : Parameter} (declared : parameter ∈ parameters)
    (mandatory : parameter.isOptional = false) :
    parameter ∈ keep spare parameters := by
  obtain ⟨place, at_⟩ := List.mem_iff_getElem?.mp declared
  refine List.mem_map.mpr ⟨(parameter, place), ?_, rfl⟩
  rw [List.mem_filter]
  exact ⟨List.mem_zipIdx_iff_getElem?.mpr at_, by simp [isKept, mandatory]⟩

private theorem keep_zero (parameters : List Parameter) :
    keep 0 parameters = parameters.filter (fun parameter => !parameter.isOptional) := by
  induction parameters with
  | nil => rfl
  | cons first rest ih =>
    cases optional : first.isOptional with
    | false => rw [keep_cons_mandatory optional, ih]; simp [optional]
    | true => rw [keep_cons_optional_zero optional, ih]; simp [optional]

/-- All mandatory parameters are kept, and as many optional ones as there are spare arguments. -/
theorem length_keep {spare : Nat} {parameters : List Parameter}
    (room : spare ≤ parameters.countP isOptional) :
    (keep spare parameters).length = parameters.countP (fun p => !p.isOptional) + spare := by
  induction parameters generalizing spare with
  | nil =>
    obtain rfl := Nat.le_zero.mp room
    rfl
  | cons first rest ih =>
    rw [List.countP_cons] at room ⊢
    cases optional : first.isOptional with
    | false =>
      rw [keep_cons_mandatory optional, List.length_cons, ih (by simpa [optional] using room)]
      simp only [Bool.not_false, if_true]
      omega
    | true =>
      simp only [optional, if_true] at room
      cases spare with
      | zero =>
        rw [keep_cons_optional_zero optional, ih (Nat.zero_le _)]
        simp
      | succ spare =>
        rw [keep_cons_optional_succ optional, List.length_cons, ih (by omega)]
        simp only [Bool.not_true, Bool.false_eq_true, if_false]
        omega

/-- With one more spare argument the first optional parameter that was left out is kept too; all
parameters before it were kept already, and behind it the mandatory ones. -/
theorem keep_succ {spare : Nat} {parameters : List Parameter}
    (room : spare < parameters.countP isOptional) :
    ∃ before next after, parameters = before ++ next :: after ∧ next.isOptional = true ∧
      keep spare parameters = before ++ after.filter (fun p => !p.isOptional) ∧
      keep (spare + 1) parameters = before ++ next :: after.filter (fun p => !p.isOptional) := by
  induction parameters generalizing spare with
  | nil => simp at room
  | cons first rest ih =>
    rw [List.countP_cons] at room
    cases optional : first.isOptional with
    | false =>
      obtain ⟨before, next, after, rfl, isOptional, kept, keptMore⟩ :=
        ih (by simpa [optional] using room)
      refine ⟨first :: before, next, after, rfl, isOptional, ?_, ?_⟩
      · rw [keep_cons_mandatory optional, kept, List.cons_append]
      · rw [keep_cons_mandatory optional, keptMore, List.cons_append]
    | true =>
      simp only [optional, if_true] at room
      cases spare with
      | zero =>
        refine ⟨[], first, rest, rfl, optional, ?_, ?_⟩
        · rw [keep_cons_optional_zero optional, keep_zero, List.nil_append]
        · rw [keep_cons_optional_succ optional, keep_zero, List.nil_append]
      | succ spare =>
        have fewer : spare < rest.countP isOptional := by omega
        obtain ⟨before, next, after, rfl, isOptional, kept, keptMore⟩ := ih fewer
        refine ⟨first :: before, next, after, rfl, isOptional, ?_, ?_⟩
        · rw [keep_cons_optional_succ optional, kept, List.cons_append]
        · rw [keep_cons_optional_succ optional, keptMore, List.cons_append]

end Parameter

namespace Matcher

/-- An object stands at a place of a list and at no earlier one. -/
def FirstAt (items : List Value) (target : Value) (place : Nat) : Prop :=
  (∃ item, items[place]? = some item ∧ item.same target = true) ∧
    ∀ earlier < place, ∀ item, items[earlier]? = some item → item.same target = false

private theorem indexOf?_eq_some {items : List Value} {target : Value} {place : Nat} :
    indexOf? items target = some place ↔ FirstAt items target place := by
  simp only [indexOf?, List.findIdx?_eq_some_iff_getElem, FirstAt]
  constructor
  · rintro ⟨bound, found, before⟩
    refine ⟨⟨_, List.getElem?_eq_getElem bound, found⟩, ?_⟩
    intro earlier less item present
    obtain ⟨inside, rfl⟩ := List.getElem?_eq_some_iff.mp present
    exact Bool.eq_false_iff.mpr (before earlier less)
  · rintro ⟨⟨item, present, found⟩, before⟩
    obtain ⟨bound, rfl⟩ := List.getElem?_eq_some_iff.mp present
    refine ⟨bound, found, ?_⟩
    intro earlier less
    exact Bool.eq_false_iff.mp (before earlier less _ (List.getElem?_eq_getElem _))

/-- The callee of an accepted call is a node, and null is none, so that null needs no exception. -/
theorem isCalleeOf_eq_false {node parent func : Value} {arguments : List Value}
    (isCall : IsCall parent func arguments) :
    isCalleeOf node parent = false ↔ func.same node = false := by
  rw [isCalleeOf, (isCall_iff.mp isCall).1, Option.any_some]
  have isNode := isCall.isNode
  cases func with
  | node tag kind slots marks =>
    cases node with
    | plain tag' content => simp [Value.same]
    | list tag' items => simp [Value.same]
    | node tag' kind' slots' marks' => simp [Value.isNull]
  | _ => simp [Value.isNode] at isNode

/-- The parameter of an object in an accepted call. -/
theorem parameterOf?_of_isCall {matcher : Matcher} {node parent func : Value}
    {arguments : List Value} {parameter : Parameter} (accepted : matcher.test parent = true)
    (isCall : IsCall parent func arguments) :
    matcher.parameterOf? node parent = some parameter ↔ func.same node = false ∧
      ∃ place, FirstAt arguments node place ∧
        (matcher.filled arguments.length)[place]? = some parameter := by
  rw [← isCalleeOf_eq_false isCall, parameterOf?]
  cases callee : isCalleeOf node parent with
  | true => simp
  | false =>
    simp [accepted, (isCall_iff.mp isCall).2, Option.bind_eq_some_iff, indexOf?_eq_some]

theorem test_of_parameterOf? {matcher : Matcher} {node parent : Value} {parameter : Parameter}
    (found : matcher.parameterOf? node parent = some parameter) : matcher.test parent = true := by
  unfold parameterOf? at found
  split at found
  · cases found
  · split at found
    · assumption
    · cases found

/-- The parts of an accepted call, and that its arguments are neither too few nor too many. -/
theorem isCall_of_test {matcher : Matcher} {parent : Value}
    (accepted : matcher.test parent = true) :
    ∃ func arguments, IsCall parent func arguments ∧ matcher.minArgs ≤ arguments.length ∧
      arguments.length ≤ matcher.maxArgs := by
  obtain ⟨func, arguments, isCall, -, -, enough, room⟩ := test_eq_true.mp accepted
  exact ⟨func, arguments, isCall, enough, room⟩

theorem IsCall.unique {parent func func' : Value} {arguments arguments' : List Value}
    (isCall : IsCall parent func arguments) (isCall' : IsCall parent func' arguments') :
    func = func' ∧ arguments = arguments' := by
  obtain ⟨callee, listed⟩ := isCall_iff.mp isCall
  obtain ⟨callee', listed'⟩ := isCall_iff.mp isCall'
  exact ⟨Option.some.inj (callee.symm.trans callee'), Option.some.inj (listed.symm.trans listed')⟩

private theorem IsCall.length_mem {matcher : Matcher} {parent func : Value} {arguments : List Value}
    (isCall : IsCall parent func arguments) (accepted : matcher.test parent = true) :
    matcher.minArgs ≤ arguments.length ∧ arguments.length ≤ matcher.maxArgs := by
  obtain ⟨_, _, isCall', enough, room⟩ := isCall_of_test accepted
  obtain ⟨-, rfl⟩ := isCall.unique isCall'
  exact ⟨enough, room⟩

theorem isCall_of_listed {matcher : Matcher} {parent : Value} {tag : Nat} {arguments : List Value}
    (accepted : matcher.test parent = true)
    (listed : parent.attr? "args" = some (.list tag arguments)) :
    ∃ func, IsCall parent func arguments := by
  obtain ⟨func, _, isCall, -, -⟩ := isCall_of_test accepted
  exact ⟨func, isCall.isKind, isCall.callee, isCall.isNode, tag, listed⟩

private theorem minArgs_add_countP (matcher : Matcher) :
    matcher.minArgs + matcher.parameters.countP Parameter.isOptional = matcher.maxArgs := by
  rw [minArgs, maxArgs, List.length_eq_countP_add_countP Parameter.isOptional, Nat.add_comm]
  simp only [Bool.not_eq_true, Bool.decide_eq_false]

/-- Within the bounds, as many parameters are filled as there are arguments. -/
theorem length_filled {matcher : Matcher} {count : Nat} (enough : matcher.minArgs ≤ count)
    (room : count ≤ matcher.maxArgs) : (matcher.filled count).length = count := by
  have total := matcher.minArgs_add_countP
  have spare : count - matcher.minArgs ≤ matcher.parameters.countP Parameter.isOptional := by omega
  have length := Parameter.length_keep spare
  rw [← minArgs] at length
  rw [filled_eq_keep, length]
  omega

/-- The callee and the arguments of a call are different objects. -/
def ObjectsApart (func : Value) (arguments : List Value) : Prop :=
  (func :: arguments).Pairwise fun earlier later => earlier.same later = false

instance (func : Value) (arguments : List Value) : Decidable (ObjectsApart func arguments) :=
  inferInstanceAs (Decidable (List.Pairwise _ _))

private theorem firstAt_of_apart {arguments : List Value} {place : Nat} {argument : Value}
    (apart : arguments.Pairwise fun earlier later => earlier.same later = false)
    (present : arguments[place]? = some argument) : FirstAt arguments argument place := by
  refine ⟨⟨argument, present, Value.same_self argument⟩, ?_⟩
  intro earlier less item at_
  obtain ⟨bound, rfl⟩ := List.getElem?_eq_some_iff.mp present
  obtain ⟨inside, rfl⟩ := List.getElem?_eq_some_iff.mp at_
  exact List.pairwise_iff_getElem.mp apart earlier place inside bound less

/-- Different objects fill the kept parameters one after the other. -/
theorem map_parameterOf? {matcher : Matcher} {parent func : Value} {arguments : List Value}
    (accepted : matcher.test parent = true) (isCall : IsCall parent func arguments)
    (apart : ObjectsApart func arguments) :
    arguments.map (fun argument => matcher.parameterOf? argument parent) =
      (matcher.filled arguments.length).map some := by
  obtain ⟨enough, room⟩ := isCall.length_mem accepted
  have length := length_filled enough room
  obtain ⟨calleeApart, apart⟩ := List.pairwise_cons.mp apart
  apply List.ext_getElem
  · rw [List.length_map, List.length_map, length]
  · intro place bound bound'
    rw [List.length_map] at bound bound'
    rw [List.getElem_map, List.getElem_map, parameterOf?_of_isCall accepted isCall]
    refine ⟨calleeApart _ (List.getElem_mem _), place, ?_, List.getElem?_eq_getElem bound'⟩
    exact firstAt_of_apart apart (List.getElem?_eq_getElem bound)

/-- One argument more fills the first optional parameter left out so far, and otherwise the same
ones. -/
theorem filled_succ {matcher : Matcher} {count : Nat} (enough : matcher.minArgs ≤ count)
    (room : count + 1 ≤ matcher.maxArgs) :
    ∃ before next after, matcher.parameters = before ++ next :: after ∧ next.isOptional = true ∧
      matcher.filled count = before ++ after.filter (fun p => !p.isOptional) ∧
      matcher.filled (count + 1) = before ++ next :: after.filter (fun p => !p.isOptional) := by
  have total := matcher.minArgs_add_countP
  have more : count + 1 - matcher.minArgs = count - matcher.minArgs + 1 := by omega
  rw [filled_eq_keep, filled_eq_keep, more]
  exact Parameter.keep_succ (by omega)

private theorem parameterOf?_eq_some {matcher : Matcher} {node parent : Value}
    {parameter : Parameter} :
    matcher.parameterOf? node parent = some parameter ↔ matcher.test parent = true ∧
      (∀ func, parent.attr? "func" = some func → func.same node = false) ∧
      ∃ tag arguments place, parent.attr? "args" = some (.list tag arguments) ∧
        FirstAt arguments node place ∧
        (Parameter.keep (arguments.length - matcher.minArgs) matcher.parameters)[place]? =
          some parameter := by
  constructor
  · intro found
    have accepted := test_of_parameterOf? found
    obtain ⟨func, arguments, isCall, -, -⟩ := isCall_of_test accepted
    obtain ⟨notCallee, place, first, filled⟩ := (parameterOf?_of_isCall accepted isCall).mp found
    obtain ⟨tag, listed⟩ := isCall.listed
    rw [filled_eq_keep] at filled
    refine ⟨accepted, ?_, tag, arguments, place, listed, first, filled⟩
    intro func' callee
    rw [← Option.some.inj (isCall.callee.symm.trans callee)]
    exact notCallee
  · rintro ⟨accepted, notCallee, tag, arguments, place, listed, first, kept⟩
    obtain ⟨func, isCall⟩ := isCall_of_listed accepted listed
    rw [← filled_eq_keep] at kept
    exact (parameterOf?_of_isCall accepted isCall).mpr
      ⟨notCallee func isCall.callee, place, first, kept⟩

private theorem length_keep_of_test {matcher : Matcher} {parent : Value} {tag : Nat}
    {arguments : List Value} (accepted : matcher.test parent = true)
    (listed : parent.attr? "args" = some (.list tag arguments)) :
    (Parameter.keep (arguments.length - matcher.minArgs) matcher.parameters).length =
      arguments.length := by
  obtain ⟨func, isCall⟩ := isCall_of_listed accepted listed
  obtain ⟨enough, room⟩ := isCall.length_mem accepted
  rw [← filled_eq_keep]
  exact length_filled enough room

/-- The filled parameters of a constructed matcher have different names, stand in declared order and
include the mandatory ones. -/
theorem filled_of_ofCall {call : Value} {keys : Option TraversalKeys} {matcher : Matcher}
    (built : ofCall call keys = .ok matcher) (count : Nat) :
    (matcher.filled count).Pairwise (fun p q => p.name.alike q.name = false) ∧
      (matcher.filled count).Sublist matcher.parameters ∧
      ∀ parameter ∈ matcher.parameters, parameter.isOptional = false →
        parameter ∈ matcher.filled count := by
  rw [filled_eq_keep]
  have sublist := Parameter.keep_sublist (count - matcher.minArgs) matcher.parameters
  refine ⟨(names_apart_of_ofCall built).sublist sublist, sublist, ?_⟩
  intro parameter declared mandatory
  exact Parameter.mem_keep_of_mandatory declared mandatory

/-- Two accepted calls of different objects, one with one argument more than the other. -/
theorem map_parameterOf?_succ {matcher : Matcher} {parent func longer func' : Value}
    {arguments arguments' : List Value} (accepted : matcher.test parent = true)
    (accepted' : matcher.test longer = true) (isCall : IsCall parent func arguments)
    (isCall' : IsCall longer func' arguments') (apart : ObjectsApart func arguments)
    (apart' : ObjectsApart func' arguments') (one : arguments'.length = arguments.length + 1) :
    ∃ before next after, matcher.parameters = before ++ next :: after ∧ next.isOptional = true ∧
      arguments.map (fun argument => matcher.parameterOf? argument parent) =
        (before ++ after.filter (fun p => !p.isOptional)).map some ∧
      arguments'.map (fun argument => matcher.parameterOf? argument longer) =
        (before ++ next :: after.filter (fun p => !p.isOptional)).map some := by
  rw [map_parameterOf? accepted isCall apart, map_parameterOf? accepted' isCall' apart', one]
  have enough := (isCall.length_mem accepted).1
  have room := (isCall'.length_mem accepted').2
  obtain ⟨before, next, after, declared, optional, kept, keptMore⟩ :=
    filled_succ enough (one ▸ room)
  exact ⟨before, next, after, declared, optional, by rw [kept], by rw [keptMore]⟩

/-- An object fills a parameter exactly if it is an argument, and not the callee, of an accepted
call, and the parameter is the one at its first place among those that the call keeps: all mandatory
ones and the first optional ones, together as many as the arguments. If callee and arguments are
different objects, the arguments fill parameters of different names in declared order, every
mandatory one among them, and an argument more fills the first optional one left out so far. -/
theorem fills_parameter_iff {call : Value} {keys : Option TraversalKeys} {matcher : Matcher}
    (built : ofCall call keys = .ok matcher) :
    (∀ node parent parameter, matcher.parameterOf? node parent = some parameter ↔
      matcher.test parent = true ∧
      (∀ func, parent.attr? "func" = some func → func.same node = false) ∧
      ∃ tag arguments place, parent.attr? "args" = some (.list tag arguments) ∧
        FirstAt arguments node place ∧
        (Parameter.keep (arguments.length - matcher.minArgs) matcher.parameters)[place]? =
          some parameter) ∧
    (∀ parent tag arguments, matcher.test parent = true →
      parent.attr? "args" = some (.list tag arguments) →
      (Parameter.keep (arguments.length - matcher.minArgs) matcher.parameters).length =
        arguments.length) ∧
    (∀ parent func arguments, matcher.test parent = true → IsCall parent func arguments →
      ObjectsApart func arguments → ∃ filled : List Parameter,
        arguments.map (fun argument => matcher.parameterOf? argument parent) = filled.map some ∧
        filled.Pairwise (fun p q => p.name.alike q.name = false) ∧
        filled.Sublist matcher.parameters ∧
        ∀ parameter ∈ matcher.parameters, parameter.isOptional = false → parameter ∈ filled) ∧
    (∀ parent func arguments longer func' arguments', matcher.test parent = true →
      matcher.test longer = true → IsCall parent func arguments → IsCall longer func' arguments' →
      ObjectsApart func arguments → ObjectsApart func' arguments' →
      arguments'.length = arguments.length + 1 → ∃ before next after,
        matcher.parameters = before ++ next :: after ∧ next.isOptional = true ∧
        arguments.map (fun argument => matcher.parameterOf? argument parent) =
          (before ++ after.filter (fun p => !p.isOptional)).map some ∧
        arguments'.map (fun argument => matcher.parameterOf? argument longer) =
          (before ++ next :: after.filter (fun p => !p.isOptional)).map some) := by
  refine ⟨?_, ?_, ?_, ?_⟩
  · intro node parent parameter
    exact parameterOf?_eq_some
  · intro parent tag arguments accepted listed
    exact length_keep_of_test accepted listed
  · intro parent func arguments accepted isCall apart
    exact ⟨_, map_parameterOf? accepted isCall apart, filled_of_ofCall built _⟩
  · intro parent func arguments longer func' arguments' accepted accepted' isCall isCall' apart
      apart' one
    exact map_parameterOf?_succ accepted accepted' isCall isCall' apart apart' one

/-- In `m.f(x, y)` the two arguments fill `a` and `b` of `m.f(a, [b])`, and in `m.f(x)` one optional
parameter is left out. -/
theorem sampleMatcher_fills :
    ofCall sampleMatcher.call (some sampleMatcher.keys) = .ok sampleMatcher ∧
      sampleMatcher.parameterOf? (sampleName 25 "x")
        (sampleCall 20 [sampleName 25 "x", sampleName 26 "y"]) = some ⟨.str "a", .mandatory⟩ ∧
      sampleMatcher.parameterOf? (sampleName 26 "y")
        (sampleCall 20 [sampleName 25 "x", sampleName 26 "y"]) = some ⟨.str "b", .optional⟩ ∧
      ∃ before next after, sampleMatcher.parameters = before ++ next :: after ∧
        next.isOptional = true ∧
        [sampleMatcher.parameterOf? (sampleName 25 "x") (sampleCall 20 [sampleName 25 "x"])] =
          (before ++ after.filter (fun p => !p.isOptional)).map some := by
  obtain ⟨fills, -, -, more⟩ := fills_parameter_iff sampleMatcher_built
  have shorter : sampleMatcher.test (sampleCall 20 [sampleName 25 "x"]) = true := by decide +kernel
  have accepted : sampleMatcher.test (sampleCall 20 [sampleName 25 "x", sampleName 26 "y"]) =
      true := by decide +kernel
  refine ⟨sampleMatcher_built, (fills _ _ _).mpr ?_, (fills _ _ _).mpr ?_, ?_⟩
  · refine ⟨accepted, ?_, _, _, 0, rfl, firstAt_of_apart (by decide) rfl, rfl⟩
    rintro func ⟨⟩
    rfl
  · refine ⟨accepted, ?_, _, _, 1, rfl, firstAt_of_apart (by decide) rfl, rfl⟩
    rintro func ⟨⟩
    rfl
  · obtain ⟨before, next, after, declared, optional, filled, -⟩ :=
      more _ _ _ _ _ _ shorter accepted ⟨rfl, rfl, rfl, _, rfl⟩ ⟨rfl, rfl, rfl, _, rfl⟩
        (by decide) (by decide) rfl
    exact ⟨before, next, after, declared, optional, filled⟩

end Matcher

end CallSites
