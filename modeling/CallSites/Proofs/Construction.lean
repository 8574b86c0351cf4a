import CallSites.Matcher
import CallSites.Proofs.Outcome

/-! # What construction guarantees

A matcher is made of one call, its source text, a table and the parameters that the arguments of
the call declare. The table plays no part in whether construction succeeds. Validation compares
every name with all names before it, so the parameters of a matcher have names that differ pairwise.
-/

namespace CallSites

open CallSites.Tree (TraversalKeys Value)

namespace Signature

theorem required_eq_ok {v holder : Value} {name : String} :
    required v name = .ok holder ↔ v.attr? name = some holder := by
  unfold required
  split <;> simp_all

theorem argumentName_eq_ok {text : Option String} {argument name : Value} :
    argumentName text argument = .ok name ↔ Parameter.declaredName? argument = some name := by
  unfold argumentName
  split <;> simp_all

/-- The declared names are those declared before, followed by one for each argument, and they stay
apart from each other. -/
theorem declaredNames_eq_ok {text : Option String} {names arguments result : List Value}
    (success : declaredNames text names arguments = .ok result)
    (apart : names.Pairwise fun earlier later => earlier.alike later = false) :
    (∃ declared, arguments.map Parameter.declaredName? = declared.map some ∧
      result = names ++ declared) ∧
      result.Pairwise fun earlier later => earlier.alike later = false := by
  induction arguments generalizing names with
  | nil =>
    obtain rfl : names = result := Except.ok.inj success
    exact ⟨⟨[], rfl, (List.append_nil names).symm⟩, apart⟩
  | cons argument rest ih =>
    simp only [declaredNames, Outcome.bind_eq_ok, argumentName_eq_ok] at success
    obtain ⟨name, declares, success⟩ := success
    have later : (names.any fun other => other.alike name) = false ∧
        declaredNames text (names ++ [name]) rest = .ok result := by
      split at success
      · cases success
      · split at success
        · cases success
        · rename_i fresh
          exact ⟨Bool.eq_false_iff.mpr fresh, success⟩
    obtain ⟨fresh, success⟩ := later
    have extended : (names ++ [name]).Pairwise fun earlier later =>
        earlier.alike later = false := by
      rw [List.pairwise_append]
      refine ⟨apart, List.pairwise_singleton .., ?_⟩
      intro other member last single
      rw [List.mem_singleton.mp single]
      exact Bool.eq_false_iff.mpr fun alike => by
        simpa [alike] using List.any_eq_false.mp fresh other member
    obtain ⟨⟨declared, covers, rfl⟩, apart⟩ := ih success extended
    refine ⟨⟨name :: declared, ?_, ?_⟩, apart⟩
    · rw [List.map_cons, List.map_cons, declares, covers]
    · rw [List.append_assoc, List.singleton_append]

/-- A valid signature is a call whose arguments declare names that differ pairwise. -/
theorem validate_eq_ok {text : Option String} {call : Value} (valid : validate text call = .ok ()) :
    call.isKind .call = true ∧ ∃ holder, ∃ arguments names : List Value,
      call.attr? "args" = some holder ∧ elements holder = .ok arguments ∧
      arguments.map Parameter.declaredName? = names.map some ∧
      names.Pairwise fun earlier later => earlier.alike later = false := by
  unfold validate at valid
  split at valid
  · rename_i isCall
    simp only [Outcome.bind_eq_ok, required_eq_ok] at valid
    obtain ⟨holder, held, arguments, elements, names, declares, -⟩ := valid
    obtain ⟨⟨declared, covers, rfl⟩, apart⟩ := declaredNames_eq_ok declares .nil
    exact ⟨isCall, holder, arguments, _, held, elements, covers, apart⟩
  · cases valid

end Signature

namespace Parameter

theorem make_eq_ok {name : Value} {kind : ParameterKind} {parameter : Parameter}
    (success : make name (.ok kind) = .ok parameter) : parameter = ⟨name, kind⟩ := by
  unfold make at success
  split at success
  · cases success
  · cases success
    rfl

/-- A parameter bears the name that its argument declares. -/
theorem declaredName?_of_ofArgument {argument : Value} {parameter : Parameter}
    (success : ofArgument argument = .ok parameter) :
    declaredName? argument = some parameter.name := by
  unfold ofArgument at success
  split at success
  · rename_i name found
    rw [make_eq_ok success, declaredName?, found, Option.some_or]
  · rename_i noName
    split at success
    · rename_i name found
      rw [make_eq_ok success, declaredName?, noName, Option.none_or, found]
    · cases success

end Parameter

namespace Matcher

/-- What a constructed matcher consists of. -/
theorem ofCall_eq_ok {call : Value} {keys : Option TraversalKeys} {matcher : Matcher} :
    ofCall call keys = .ok matcher ↔
      Signature.validate none call = .ok () ∧ ∃ holder arguments, call.attr? "args" = some holder ∧
        Signature.elements holder = .ok arguments ∧
        arguments.mapM Parameter.ofArgument = .ok matcher.parameters ∧
        call.source = .ok matcher.signature ∧ matcher.call = call ∧
        matcher.keys = Options.inUse keys := by
  simp only [ofCall, Outcome.bind_eq_ok, Outcome.pure_eq_ok, Signature.required_eq_ok]
  constructor
  · rintro ⟨_, valid, holder, held, arguments, elements, parameters, declares, text, printed, rfl⟩
    exact ⟨valid, holder, arguments, held, elements, declares, printed, rfl, rfl⟩
  · rintro ⟨valid, holder, arguments, held, elements, declares, printed, rfl, table⟩
    refine ⟨(), valid, holder, held, arguments, elements, _, declares, _, printed, ?_⟩
    rw [← table]

theorem call_of_ofCall {call : Value} {keys : Option TraversalKeys} {matcher : Matcher}
    (built : ofCall call keys = .ok matcher) : matcher.call = call := by
  obtain ⟨-, _, _, -, -, -, -, same, -⟩ := ofCall_eq_ok.mp built
  exact same

/-- A call that can be compiled can be compiled with every table, to matchers that differ in
nothing else. -/
theorem ofCall_with_keys {call : Value} {keys : Option TraversalKeys} {matcher : Matcher}
    (built : ofCall call keys = .ok matcher) (other : Option TraversalKeys) :
    ofCall call other = .ok { matcher with keys := Options.inUse other } := by
  obtain ⟨valid, holder, arguments, held, elements, declares, printed, same, -⟩ :=
    ofCall_eq_ok.mp built
  exact ofCall_eq_ok.mpr
    ⟨valid, holder, arguments, held, elements, declares, printed, same, rfl⟩

/-- The parameters of a matcher have names that differ pairwise. -/
theorem names_apart_of_ofCall {call : Value} {keys : Option TraversalKeys} {matcher : Matcher}
    (built : ofCall call keys = .ok matcher) :
    matcher.parameters.Pairwise fun p q => p.name.alike q.name = false := by
  obtain ⟨valid, holder, arguments, held, elements, declares, -⟩ := ofCall_eq_ok.mp built
  obtain ⟨-, holder', arguments', names, held', elements', covers, apart⟩ :=
    Signature.validate_eq_ok valid
  obtain rfl : holder = holder' := Option.some.inj (held.symm.trans held')
  obtain rfl : arguments = arguments' := Except.ok.inj (elements.symm.trans elements')
  have bears : arguments.map Parameter.declaredName? =
      (matcher.parameters.map Parameter.name).map some := by
    have pairs := (Outcome.mapM_eq_ok.mp declares).imp
      fun _ _ => Parameter.declaredName?_of_ofArgument
    rw [List.map_map, ← List.forall₂_eq_eq_eq, List.forall₂_map_left_iff,
      List.forall₂_map_right_iff]
    exact pairs
  have same : names = matcher.parameters.map Parameter.name :=
    (List.map_inj_right fun _ _ => Option.some.inj).mp (covers.symm.trans bears)
  rw [same, List.pairwise_map] at apart
  exact apart

end Matcher

/-! ### Parts of sample trees -/

def sampleName (tag : Nat) (id : String) : Value := .ofAttributes tag .name [("id", .str id)]

/-- A file with an expression as its only statement. -/
def sampleProgram (tag : Nat) (value : Value) : Value :=
  .ofAttributes tag .file
    [("body", .list (tag + 1) [.ofAttributes (tag + 2) .exprStmt [("value", value)]])]

end CallSites
