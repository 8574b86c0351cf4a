import CallSites.Proofs.Construction
import CallSites.Proofs.Tree.Walk
import Mathlib.Data.List.Induction
import Mathlib.Data.List.Nodup

/-! # What validation answers

A signature is one call whose arguments declare names: `name` or `[name]`, no name twice, and no
keyword after them. Validation goes through the arguments from left to right, so arguments that pass
are left behind unnoticed and the first one that does not decides the answer. What passes can be
compiled: the two readings of an argument, one for validation and one for compilation, agree.
-/

namespace CallSites

open CallSites.Tree (Kind TraversalKeys Value)

namespace Tree.Value

/-- Whether a call carries a list of arguments and a list of keywords. -/
def hasLists (call : Value) : Bool :=
  ((call.attr "args").items?.isSome) && ((call.attr "keywords").items?.isSome)

/-- Every call of a tree carries a list of arguments and a list of keywords. -/
def CallsComplete (tree : Value) : Prop :=
  ∀ call ∈ tree.nodes, call.isKind .call = true → call.hasLists = true

instance (tree : Value) : Decidable tree.CallsComplete :=
  inferInstanceAs (Decidable (∀ call ∈ tree.nodes, _))

/-- The text that a name node holds. -/
def nameText? (v : Value) : Option String := (v.attr "id").text?

/-- The names of a tree are texts that are not empty. -/
def NamesGiven (tree : Value) : Prop :=
  ∀ v ∈ tree.nodes, v.isKind .name = true → v.nameText?.any (fun name => !name.isEmpty) = true

instance (tree : Value) : Decidable tree.NamesGiven :=
  inferInstanceAs (Decidable (∀ v ∈ tree.nodes, _))

end Tree.Value

namespace Signature

/-- An argument of the form `name` or `[name]`, with the name and how it is declared. -/
inductive Declares : Value → String → ParameterKind → Prop
  | bare {v : Value} {tag : Nat} {name : String} (isName : v.isKind .name = true)
      (held : v.attr? "id" = some (.plain tag (.str name))) : Declares v name .mandatory
  | bracketed {v item : Value} {tag tag' : Nat} {name : String} (isList : v.isKind .list = true)
      (only : v.attr? "elts" = some (.list tag [item])) (isName : item.isKind .name = true)
      (held : item.attr? "id" = some (.plain tag' (.str name))) : Declares v name .optional

/-- Arguments that all declare names, no name twice. -/
structure Pass (arguments : List Value) (declared : List (String × ParameterKind)) : Prop where
  declare : List.Forall₂ (fun argument entry => Declares argument entry.1 entry.2) arguments
    declared
  distinct : (declared.map Prod.fst).Nodup

/-- Some argument is neither `name` nor `[name]`, and all before it pass. -/
def Malformed (arguments : List Value) : Prop :=
  ∃ before argument after declared, arguments = before ++ argument :: after ∧
    Pass before declared ∧ ∀ name kind, ¬ Declares argument name kind

/-- Some argument declares a name that one before it declares, and all before it pass. -/
def Repeats (arguments : List Value) (name : String) : Prop :=
  ∃ before argument after declared kind, arguments = before ++ argument :: after ∧
    Pass before declared ∧ Declares argument name kind ∧ name ∈ declared.map Prod.fst

theorem Pass.nil : Pass [] [] := ⟨.nil, List.nodup_nil⟩

theorem Pass.snoc {arguments : List Value} {declared : List (String × ParameterKind)}
    {argument : Value} {name : String} {kind : ParameterKind} (pass : Pass arguments declared)
    (declares : Declares argument name kind) (fresh : name ∉ declared.map Prod.fst) :
    Pass (arguments ++ [argument]) (declared ++ [(name, kind)]) := by
  refine ⟨List.rel_append pass.declare (.cons declares .nil), ?_⟩
  rw [List.map_append, List.map_singleton, List.nodup_append]
  refine ⟨pass.distinct, List.nodup_singleton _, ?_⟩
  intro other member last single
  rw [List.mem_singleton.mp single]
  rintro rfl
  exact fresh member

/-- Arguments pass, or one of them is the first that does not. -/
theorem pass_or_violate (arguments : List Value) :
    (∃ declared, Pass arguments declared) ∨ Malformed arguments ∨
      ∃ name, Repeats arguments name := by
  induction arguments using List.reverseRecOn with
  | nil => exact Or.inl ⟨[], Pass.nil⟩
  | append_singleton before argument ih =>
    rcases ih with ⟨declared, pass⟩ | malformed | ⟨name, repeats⟩
    · by_cases declares : ∃ name kind, Declares argument name kind
      · obtain ⟨name, kind, declares⟩ := declares
        by_cases used : name ∈ declared.map Prod.fst
        · exact Or.inr (Or.inr
            ⟨name, before, argument, [], declared, kind, rfl, pass, declares, used⟩)
        · exact Or.inl ⟨_, pass.snoc declares used⟩
      · refine Or.inr (Or.inl ⟨before, argument, [], declared, rfl, pass, ?_⟩)
        intro name kind found
        exact declares ⟨name, kind, found⟩
    · obtain ⟨first, violating, after, declared, rfl, pass, other⟩ := malformed
      exact Or.inr (Or.inl ⟨first, violating, after ++ [argument], declared, by simp, pass, other⟩)
    · obtain ⟨first, violating, after, declared, kind, rfl, pass, declares, used⟩ := repeats
      exact Or.inr (Or.inr ⟨name, first, violating, after ++ [argument], declared, kind, by simp,
        pass, declares, used⟩)

/-- The name of an argument as it is read for validation and for compilation. -/
theorem declaredName?_of_declares {argument : Value} {name : String} {kind : ParameterKind}
    (declares : Declares argument name kind) :
    ∃ tag, Parameter.declaredName? argument = some (.plain tag (.str name)) ∧
      Parameter.ofArgument argument = Parameter.make (.plain tag (.str name)) (.ok kind) := by
  cases declares with
  | @bare tag _ isName held =>
    have read : Parameter.nameIn? argument = some (.plain tag (.str name)) := by
      rw [Parameter.nameIn?, if_pos isName, held]
    refine ⟨tag, ?_, ?_⟩
    · rw [Parameter.declaredName?, read, Option.some_or]
    · simp only [Parameter.ofArgument, read]
  | @bracketed item _ tag _ isList only isName held =>
    have notName : Parameter.nameIn? argument = none := by
      rw [Parameter.nameIn?, if_neg]
      intro isName
      rw [Value.isKind, beq_iff_eq] at isName isList
      rw [isList] at isName
      cases isName
    have read : (Parameter.onlyItem? argument).bind Parameter.nameIn? =
        some (.plain tag (.str name)) := by
      simp only [Parameter.onlyItem?, if_pos isList, only, Option.bind_some, Parameter.nameIn?,
        if_pos isName, held]
    refine ⟨tag, ?_, ?_⟩
    · rw [Parameter.declaredName?, notName, Option.none_or, read]
    · simp only [Parameter.ofArgument, notName, read]

/-- A name is read off a name node, alone or as the only item of a list display. -/
theorem declaredName?_eq_some {argument v : Value}
    (read : Parameter.declaredName? argument = some v) :
    (argument.isKind .name = true ∧ argument.attr? "id" = some v) ∨
      ∃ tag item, argument.isKind .list = true ∧
        argument.attr? "elts" = some (.list tag [item]) ∧ item.isKind .name = true ∧
        item.attr? "id" = some v := by
  have nameIn {u : Value} (found : Parameter.nameIn? u = some v) :
      u.isKind .name = true ∧ u.attr? "id" = some v := by
    unfold Parameter.nameIn? at found
    split at found
    · exact ⟨‹_›, found⟩
    · cases found
  rw [Parameter.declaredName?, Option.or_eq_some_iff] at read
  rcases read with read | ⟨-, read⟩
  · exact Or.inl (nameIn read)
  · obtain ⟨item, only, read⟩ := Option.bind_eq_some_iff.mp read
    unfold Parameter.onlyItem? at only
    split at only
    · rename_i isList
      split at only
      · rename_i single
        cases only
        exact Or.inr ⟨_, item, isList, single, nameIn read⟩
      · cases only
    · cases only

private theorem declares_of_declaredName? {argument : Value} {tag : Nat} {name : String}
    (read : Parameter.declaredName? argument = some (.plain tag (.str name))) :
    ∃ kind, Declares argument name kind := by
  rcases declaredName?_eq_some read with ⟨isName, held⟩ | ⟨_, item, isList, only, isName, held⟩
  · exact ⟨.mandatory, .bare isName held⟩
  · exact ⟨.optional, .bracketed isList only isName held⟩

/-- The names that arguments declare are texts that are not empty. -/
def ArgumentNames (arguments : List Value) : Prop :=
  ∀ argument ∈ arguments, ∀ v, Parameter.declaredName? argument = some v →
    v.text?.any (fun name => !name.isEmpty) = true

/-- A value that is a text. -/
def IsText (v : Value) (text : String) : Prop := ∃ tag, v = .plain tag (.str text)

private theorem isText_of_declares {argument : Value} {name : String} {kind : ParameterKind}
    (declares : Declares argument name kind) :
    ∃ v, Parameter.declaredName? argument = some v ∧ IsText v name := by
  obtain ⟨tag, read, -⟩ := declaredName?_of_declares declares
  exact ⟨_, read, tag, rfl⟩

/-- Texts are alike exactly if they are one text: one object has one content. -/
theorem alike_texts {v w : Value} {text text' : String} (left : IsText v text)
    (right : IsText w text') : v.alike w = true ↔ text = text' := by
  obtain ⟨tag, rfl⟩ := left
  obtain ⟨tag', rfl⟩ := right
  have texts : Tree.Plain.alike (.str text) (.str text') = (text == text') := rfl
  rw [Value.alike, texts, Value.same]
  simp only [Bool.or_eq_true, Bool.and_eq_true, beq_iff_eq, Tree.Plain.str.injEq]
  constructor
  · rintro (⟨equal, -⟩ | equal) <;> exact equal
  · exact Or.inr

private theorem any_alike {names : List Value} {texts : List String}
    (known : List.Forall₂ IsText names texts) {v : Value} {name : String} (own : IsText v name) :
    (names.any fun other => other.alike v) = true ↔ name ∈ texts := by
  induction known with
  | nil => simp
  | cons head _ ih =>
    rw [List.any_cons, Bool.or_eq_true, ih, alike_texts head own, List.mem_cons, eq_comm]

/-- One argument that declares a new name. -/
theorem declaredNames_cons (text : Option String) {names : List Value} {texts : List String}
    (known : List.Forall₂ IsText names texts) {argument v : Value} {name : String}
    (read : Parameter.declaredName? argument = some v) (own : IsText v name)
    (fresh : name ∉ texts) (rest : List Value) :
    declaredNames text names (argument :: rest) = declaredNames text (names ++ [v]) rest := by
  have unused : ¬ (names.any fun other => other.alike v) = true := fun used =>
    fresh ((any_alike known own).mp used)
  have named : argumentName text argument = .ok v := argumentName_eq_ok.mpr read
  obtain ⟨tag, rfl⟩ := own
  rw [declaredNames, named]
  change (if _ then _ else _) = _
  rw [if_neg unused]

/-- Arguments that pass are left behind, and only their names are remembered. -/
theorem declaredNames_append (text : Option String) {before : List Value}
    {declared : List (String × ParameterKind)}
    (declare : List.Forall₂ (fun argument entry => Declares argument entry.1 entry.2) before
      declared)
    {names : List Value} {texts : List String} (known : List.Forall₂ IsText names texts)
    (distinct : (texts ++ declared.map Prod.fst).Nodup) (rest : List Value) :
    ∃ values, List.Forall₂ IsText values (texts ++ declared.map Prod.fst) ∧
      declaredNames text names (before ++ rest) = declaredNames text values rest := by
  induction declare generalizing names texts with
  | nil => exact ⟨names, by simpa using known, rfl⟩
  | @cons argument entry before declared declares _ ih =>
    obtain ⟨v, read, own⟩ := isText_of_declares declares
    have regrouped : texts ++ (entry :: declared).map Prod.fst =
        (texts ++ [entry.1]) ++ declared.map Prod.fst := by simp
    rw [regrouped] at distinct ⊢
    have fresh : entry.1 ∉ texts := by
      intro used
      have apart := (List.nodup_append.mp (List.nodup_append.mp distinct).1).2.2
      exact apart entry.1 used entry.1 (List.mem_singleton_self _) rfl
    rw [List.cons_append, declaredNames_cons text known read own fresh]
    exact ih (List.rel_append known (.cons own .nil)) distinct

/-- A call with the lists of its arguments and its keywords. -/
structure Carries (call : Value) (arguments keywords : List Value) : Prop where
  isCall : call.isKind .call = true
  positional : ∃ tag, call.attr? "args" = some (.list tag arguments)
  named : ∃ tag, call.attr? "keywords" = some (.list tag keywords)

/-- Validation goes through the arguments and then looks at the keywords. -/
theorem validate_eq_bind (text : Option String) {call : Value} {arguments keywords : List Value}
    (carries : Carries call arguments keywords) :
    validate text call = declaredNames text [] arguments >>= fun _ =>
      if keywords.isEmpty then .ok () else .error (.diagnosed (.badArgument text)) := by
  obtain ⟨isCall, ⟨tag, positional⟩, tag', named⟩ := carries
  rw [validate, if_pos isCall, required_eq_ok.mpr positional, required_eq_ok.mpr named]
  cases keywords <;> rfl

private theorem validate_of_pass (text : Option String) {call : Value}
    {arguments keywords : List Value} (carries : Carries call arguments keywords)
    {declared : List (String × ParameterKind)} (pass : Pass arguments declared) :
    validate text call =
      if keywords.isEmpty then .ok () else .error (.diagnosed (.badArgument text)) := by
  obtain ⟨values, -, run⟩ := declaredNames_append text pass.declare .nil pass.distinct []
  rw [List.append_nil] at run
  rw [validate_eq_bind text carries, run]
  rfl

private theorem declaredName?_eq_none {arguments : List Value} (given : ArgumentNames arguments)
    {argument : Value} (member : argument ∈ arguments)
    (other : ∀ name kind, ¬ Declares argument name kind) :
    Parameter.declaredName? argument = none := by
  rw [Option.eq_none_iff_forall_ne_some]
  intro v read
  have text := given argument member v read
  cases v with
  | plain tag content =>
    cases content with
    | str name =>
      obtain ⟨kind, declares⟩ := declares_of_declaredName? read
      exact other name kind declares
    | _ => simp [Value.text?] at text
  | _ => simp [Value.text?] at text

private theorem validate_of_malformed (text : Option String) {call : Value}
    {arguments keywords : List Value} (carries : Carries call arguments keywords)
    (given : ArgumentNames arguments) (malformed : Malformed arguments) :
    validate text call = .error (.diagnosed (.badArgument text)) := by
  obtain ⟨before, argument, after, declared, rfl, pass, other⟩ := malformed
  obtain ⟨values, -, run⟩ :=
    declaredNames_append text pass.declare .nil pass.distinct (argument :: after)
  have unread := declaredName?_eq_none given (by simp) other
  rw [validate_eq_bind text carries, run, declaredNames, argumentName, unread]
  rfl

private theorem validate_of_repeats (text : Option String) {call : Value}
    {arguments keywords : List Value} (carries : Carries call arguments keywords)
    (given : ArgumentNames arguments) {name : String} (repeats : Repeats arguments name) :
    validate text call = .error (.diagnosed (.duplicateName name text)) := by
  obtain ⟨before, argument, after, declared, kind, rfl, pass, declares, used⟩ := repeats
  obtain ⟨values, known, run⟩ :=
    declaredNames_append text pass.declare .nil pass.distinct (argument :: after)
  obtain ⟨v, read, own⟩ := isText_of_declares declares
  have repeated := (any_alike known own).mpr used
  have nonempty := given argument (by simp) v read
  obtain ⟨tag, rfl⟩ := own
  have fault : duplicate text (.plain tag (.str name)) = .diagnosed (.duplicateName name text) := by
    have given : name.isEmpty = false := by simpa [Value.text?] using nonempty
    simp [duplicate, Diagnosis.duplicateName?, given, Fault.ofDiagnosis]
  rw [validate_eq_bind text carries, run, declaredNames, argumentName_eq_ok.mpr read, ← fault]
  change (if _ then _ else _) >>= _ = _
  rw [if_pos repeated]
  rfl

/-- A body of one statement, which is an expression and a call. -/
def SoleCall (body call : Value) : Prop :=
  ∃ tag statement, body = .list tag [statement] ∧ statement.isKind .exprStmt = true ∧
    statement.attr? "value" = some call ∧ call.isKind .call = true

theorem soleCall_iff {body call : Value} :
    (onlyExpression? body).filter (Value.isKind .call) = some call ↔ SoleCall body call := by
  rw [Option.filter_eq_some_iff]
  constructor
  · rintro ⟨only, isCall⟩
    unfold onlyExpression? at only
    split at only
    · split at only
      · exact ⟨_, _, rfl, ‹_›, only, isCall⟩
      · cases only
    · cases only
  · rintro ⟨tag, statement, rfl, isStatement, held, isCall⟩
    exact ⟨by rw [onlyExpression?, if_pos isStatement, held], isCall⟩

private theorem extract_of_sole (text : Option String) {tree body call : Value}
    (held : tree.attr? "body" = some body) (sole : SoleCall body call) :
    extract text tree = validate text call >>= fun _ => .ok call := by
  have only := soleCall_iff.mpr sole
  simp only [extract, required_eq_ok.mpr held, bind, Except.bind, only]
  rfl

private theorem extract_of_not_sole (text : Option String) {tree body : Value}
    (held : tree.attr? "body" = some body) (other : ¬ ∃ call, SoleCall body call) :
    extract text tree = .error (.diagnosed (.notCall text)) := by
  have absent : (onlyExpression? body).filter (Value.isKind .call) = none := by
    rw [Option.eq_none_iff_forall_ne_some]
    intro call found
    exact other ⟨call, soleCall_iff.mp found⟩
  simp only [extract, required_eq_ok.mpr held, bind, Except.bind, absent]

theorem isNode_of_isKind {v : Value} {kind : Kind} (isKind : v.isKind kind = true) :
    v.isNode = true := by
  cases v with
  | node => rfl
  | _ => simp [Value.isKind, Value.kind?] at isKind

/-- The only call of a file is one of its nodes. -/
theorem mem_nodes_of_sole {tree body call : Value} (isFile : tree.isKind .file = true)
    (held : tree.attr? "body" = some body) (sole : SoleCall body call) : call ∈ tree.nodes := by
  obtain ⟨tag, statement, rfl, isStatement, value, isCall⟩ := sole
  have root : tree ∈ tree.nodes := by
    rw [Value.nodes_eq_cons]
    exact List.mem_cons_self ..
  have below : statement ∈ tree.children := by
    refine Value.mem_children_of_attr? isFile (by decide) held ?_
    exact List.mem_filter.mpr ⟨List.mem_singleton_self _, isNode_of_isKind isStatement⟩
  have inside : call ∈ statement.children := by
    refine Value.mem_children_of_attr? isStatement (by decide) value ?_
    have isNode := isNode_of_isKind isCall
    cases call with
    | node => exact List.mem_singleton_self _
    | _ => simp [Value.isNode] at isNode
  exact Value.mem_nodes_of_child (Value.mem_nodes_of_child root below) inside

theorem carries_of_complete {tree call : Value} (complete : tree.CallsComplete)
    (member : call ∈ tree.nodes) (isCall : call.isKind .call = true) :
    ∃ arguments keywords, Carries call arguments keywords := by
  have lists := complete call member isCall
  have listed {name : String} (isList : ((call.attr name).items?.isSome) = true) :
      ∃ items tag, call.attr? name = some (.list tag items) := by
    cases held : call.attr? name with
    | none => simp [Value.attr, held, Value.reading, Value.null, Value.items?] at isList
    | some holder =>
      cases holder with
      | list tag items => exact ⟨items, tag, rfl⟩
      | _ => simp [Value.attr, held, Value.reading, Value.items?] at isList
  rw [Value.hasLists, Bool.and_eq_true] at lists
  obtain ⟨arguments, positional⟩ := listed lists.1
  obtain ⟨keywords, named⟩ := listed lists.2
  exact ⟨arguments, keywords, isCall, positional, named⟩

/-- The names that the arguments of a call declare are names of the tree. -/
theorem argumentNames_of_given {tree call : Value} (given : tree.NamesGiven)
    (member : call ∈ tree.nodes) {arguments keywords : List Value}
    (carries : Carries call arguments keywords) : ArgumentNames arguments := by
  obtain ⟨isCall, ⟨tag, positional⟩, -⟩ := carries
  have inside {argument : Value} (among : argument ∈ arguments) (isNode : argument.isNode = true) :
      argument ∈ tree.nodes := by
    refine Value.mem_nodes_of_child member
      (Value.mem_children_of_attr? isCall (by decide) positional ?_)
    exact List.mem_filter.mpr ⟨among, isNode⟩
  have holder : ∀ argument ∈ arguments, ∀ v, Parameter.declaredName? argument = some v →
      ∃ u ∈ tree.nodes, u.isKind .name = true ∧ u.attr "id" = v := by
    intro argument among v read
    rcases declaredName?_eq_some read with ⟨isName, held⟩ | ⟨_, item, isList, only, isName, held⟩
    · refine ⟨argument, inside among (isNode_of_isKind isName), isName, ?_⟩
      rw [Value.attr, held, Value.reading, Option.getD_some]
    · have outer := inside among (isNode_of_isKind isList)
      refine ⟨item, Value.mem_nodes_of_child outer ?_, isName, ?_⟩
      · refine Value.mem_children_of_attr? isList (by decide) only ?_
        exact List.mem_filter.mpr ⟨List.mem_singleton_self _, isNode_of_isKind isName⟩
      · rw [Value.attr, held, Value.reading, Option.getD_some]
  intro argument among v read
  obtain ⟨u, known, isName, rfl⟩ := holder argument among v read
  exact given u known isName

/-- Arguments that pass are compiled to the parameters that they declare. -/
theorem mapM_ofArgument {arguments : List Value} (given : ArgumentNames arguments)
    {declared : List (String × ParameterKind)} (pass : Pass arguments declared) :
    ∃ parameters, arguments.mapM Parameter.ofArgument = .ok parameters ∧
      parameters.map (fun parameter => (parameter.name.text?, parameter.kind)) =
        declared.map fun entry => (some entry.1, entry.2) := by
  have compiled : ∀ argument ∈ arguments, ∀ name kind, Declares argument name kind →
      ∃ parameter, Parameter.ofArgument argument = .ok parameter ∧
        (parameter.name.text?, parameter.kind) = (some name, kind) := by
    intro argument member name kind declares
    obtain ⟨tag, read, compiles⟩ := declaredName?_of_declares declares
    have nonempty : name.isEmpty = false := by
      simpa [Value.text?] using given argument member _ read
    refine ⟨⟨.plain tag (.str name), kind⟩, ?_, rfl⟩
    rw [compiles]
    simp [Parameter.make, Value.truthy, Tree.Plain.truthy, nonempty]
  have declare := pass.declare
  clear pass given
  induction declare with
  | nil => exact ⟨[], rfl, rfl⟩
  | @cons argument entry arguments declared declares _ ih =>
    obtain ⟨parameter, first, same⟩ := compiled argument (List.mem_cons_self ..) _ _ declares
    obtain ⟨parameters, rest, covers⟩ := ih fun argument member =>
      compiled argument (List.mem_cons_of_mem _ member)
    refine ⟨parameter :: parameters, ?_, by rw [List.map_cons, List.map_cons, same, covers]⟩
    rw [List.mapM_cons, first, rest]
    rfl

/-- What passes can be compiled as soon as it can be printed. -/
theorem ofCall_of_pass {call : Value} {arguments : List Value} (carries : Carries call arguments [])
    (given : ArgumentNames arguments) {declared : List (String × ParameterKind)}
    (pass : Pass arguments declared) {source : String} (printed : call.source = .ok source)
    (keys : Option TraversalKeys) :
    ∃ matcher, Matcher.ofCall call keys = .ok matcher ∧
      matcher.parameters.map (fun parameter => (parameter.name.text?, parameter.kind)) =
        declared.map fun entry => (some entry.1, entry.2) := by
  obtain ⟨parameters, compiled, covers⟩ := mapM_ofArgument given pass
  have valid : validate none call = .ok () := validate_of_pass none carries pass
  obtain ⟨-, ⟨tag, positional⟩, -⟩ := carries
  refine ⟨⟨call, source, Options.inUse keys, parameters⟩, ?_, covers⟩
  exact Matcher.ofCall_eq_ok.mpr ⟨valid, _, arguments, positional, rfl, compiled, printed, rfl, rfl⟩

theorem extract_of_pass {tree body call : Value} (held : tree.attr? "body" = some body)
    (text : Option String) {arguments : List Value} {declared : List (String × ParameterKind)}
    (sole : SoleCall body call) (carries : Carries call arguments [])
    (pass : Pass arguments declared) : extract text tree = .ok call := by
  rw [extract_of_sole text held sole, validate_of_pass text carries pass]
  rfl

section File

variable {tree body : Value} (isFile : tree.isKind .file = true)
  (held : tree.attr? "body" = some body) (given : tree.NamesGiven) (text : Option String)

include isFile held given

private theorem extract_of_repeats {call : Value} {arguments keywords : List Value} {name : String}
    (sole : SoleCall body call) (carries : Carries call arguments keywords)
    (repeats : Repeats arguments name) :
    extract text tree = .error (.diagnosed (.duplicateName name text)) := by
  have names := argumentNames_of_given given (mem_nodes_of_sole isFile held sole) carries
  rw [extract_of_sole text held sole, validate_of_repeats text carries names repeats]
  rfl

private theorem extract_of_malformed {call : Value} {arguments keywords : List Value}
    (sole : SoleCall body call) (carries : Carries call arguments keywords)
    (bad : Malformed arguments ∨ keywords ≠ [] ∧ ∃ declared, Pass arguments declared) :
    extract text tree = .error (.diagnosed (.badArgument text)) := by
  rw [extract_of_sole text held sole]
  rcases bad with malformed | ⟨present, declared, pass⟩
  · have names := argumentNames_of_given given (mem_nodes_of_sole isFile held sole) carries
    rw [validate_of_malformed text carries names malformed]
    rfl
  · rw [validate_of_pass text carries pass, if_neg (by simpa using present)]
    rfl

/-- One of the four answers is given, each for the reason that goes with it. -/
theorem extract_cases (complete : tree.CallsComplete) :
    (∃ call arguments declared, SoleCall body call ∧ Carries call arguments [] ∧
      Pass arguments declared ∧ extract text tree = .ok call) ∨
    ((¬ ∃ call, SoleCall body call) ∧ extract text tree = .error (.diagnosed (.notCall text))) ∨
    (∃ call arguments keywords name, SoleCall body call ∧ Carries call arguments keywords ∧
      Repeats arguments name ∧
      extract text tree = .error (.diagnosed (.duplicateName name text))) ∨
    ∃ call arguments keywords, SoleCall body call ∧ Carries call arguments keywords ∧
      (Malformed arguments ∨ keywords ≠ [] ∧ ∃ declared, Pass arguments declared) ∧
      extract text tree = .error (.diagnosed (.badArgument text)) := by
  by_cases found : ∃ call, SoleCall body call
  · obtain ⟨call, sole⟩ := found
    have isCall : call.isKind .call = true := by
      obtain ⟨_, _, _, _, _, isCall⟩ := sole
      exact isCall
    obtain ⟨arguments, keywords, carries⟩ :=
      carries_of_complete complete (mem_nodes_of_sole isFile held sole) isCall
    rcases pass_or_violate arguments with ⟨declared, pass⟩ | malformed | ⟨name, repeats⟩
    · by_cases unnamed : keywords = []
      · subst unnamed
        exact Or.inl ⟨call, arguments, declared, sole, carries, pass,
          extract_of_pass held text sole carries pass⟩
      · have bad : Malformed arguments ∨ keywords ≠ [] ∧ ∃ declared, Pass arguments declared :=
          Or.inr ⟨unnamed, declared, pass⟩
        exact Or.inr (Or.inr (Or.inr ⟨call, arguments, keywords, sole, carries, bad,
          extract_of_malformed isFile held given text sole carries bad⟩))
    · exact Or.inr (Or.inr (Or.inr ⟨call, arguments, keywords, sole, carries, Or.inl malformed,
        extract_of_malformed isFile held given text sole carries (Or.inl malformed)⟩))
    · exact Or.inr (Or.inr (Or.inl ⟨call, arguments, keywords, name, sole, carries, repeats,
        extract_of_repeats isFile held given text sole carries repeats⟩))
  · exact Or.inr (Or.inl ⟨found, extract_of_not_sole text held found⟩)

end File

/-- The tree of a file, with lists in its calls and texts in its names, is answered by its first
violation: it is not one call; an argument repeats a name that one before it declares; an argument
is neither `name` nor `[name]`, or all arguments pass and keywords follow. Without a violation the
answer is the call itself, and as soon as that can be printed it can be compiled with every table,
to the parameters that its arguments declare. -/
theorem extract_answers_first_violation {tree body : Value} (isFile : tree.isKind .file = true)
    (held : tree.attr? "body" = some body) (complete : tree.CallsComplete)
    (given : tree.NamesGiven) (text : Option String) :
    (∀ call, extract text tree = .ok call ↔ SoleCall body call ∧
      ∃ arguments declared, Carries call arguments [] ∧ Pass arguments declared) ∧
    (extract text tree = .error (.diagnosed (.notCall text)) ↔ ¬ ∃ call, SoleCall body call) ∧
    (∀ name : String, extract text tree = .error (.diagnosed (.duplicateName name text)) ↔
      ∃ call arguments keywords, SoleCall body call ∧ Carries call arguments keywords ∧
        Repeats arguments name) ∧
    (extract text tree = .error (.diagnosed (.badArgument text)) ↔
      ∃ call arguments keywords, SoleCall body call ∧ Carries call arguments keywords ∧
        (Malformed arguments ∨ keywords ≠ [] ∧ ∃ declared, Pass arguments declared)) ∧
    ((∃ call, extract text tree = .ok call) ∨
      extract text tree = .error (.diagnosed (.notCall text)) ∨
      (∃ name : String, extract text tree = .error (.diagnosed (.duplicateName name text))) ∨
      extract text tree = .error (.diagnosed (.badArgument text))) ∧
    ∀ call source, extract text tree = .ok call → call.source = .ok source →
      ∀ keys, ∃ matcher arguments declared, Matcher.ofCall call keys = .ok matcher ∧
        Carries call arguments [] ∧ Pass arguments declared ∧
        matcher.parameters.map (fun parameter => (parameter.name.text?, parameter.kind)) =
          declared.map fun entry => (some entry.1, entry.2) := by
  have cases := extract_cases isFile held given text complete
  have accepted : ∀ call, extract text tree = .ok call ↔ SoleCall body call ∧
      ∃ arguments declared, Carries call arguments [] ∧ Pass arguments declared := by
    intro call
    constructor
    · intro answer
      rw [answer] at cases
      simp only [Except.ok.injEq, reduceCtorEq, and_false, exists_false, or_false] at cases
      obtain ⟨_, arguments, declared, sole, carries, pass, rfl⟩ := cases
      exact ⟨sole, arguments, declared, carries, pass⟩
    · rintro ⟨sole, arguments, declared, carries, pass⟩
      exact extract_of_pass held text sole carries pass
  refine ⟨accepted, ?_, ?_, ?_, ?_, ?_⟩
  · constructor
    · intro answer
      rw [answer] at cases
      simp only [Except.error.injEq, Fault.diagnosed.injEq, reduceCtorEq, and_false, exists_false,
        or_false, false_or, and_true] at cases
      exact cases
    · exact extract_of_not_sole text held
  · intro name
    constructor
    · intro answer
      rw [answer] at cases
      simp only [Except.error.injEq, Fault.diagnosed.injEq, Diagnosis.duplicateName.injEq,
        Text.GivenText.chars.injEq, reduceCtorEq, and_false, exists_false, or_false, false_or,
        and_true] at cases
      obtain ⟨call, arguments, keywords, _, sole, carries, repeats, rfl⟩ := cases
      exact ⟨call, arguments, keywords, sole, carries, repeats⟩
    · rintro ⟨call, arguments, keywords, sole, carries, repeats⟩
      exact extract_of_repeats isFile held given text sole carries repeats
  · constructor
    · intro answer
      rw [answer] at cases
      simp only [Except.error.injEq, Fault.diagnosed.injEq, reduceCtorEq, and_false, exists_false,
        false_or, and_true] at cases
      exact cases
    · rintro ⟨call, arguments, keywords, sole, carries, bad⟩
      exact extract_of_malformed isFile held given text sole carries bad
  · rcases cases with ⟨call, _, _, -, -, -, answer⟩ | ⟨-, answer⟩ |
      ⟨_, _, _, name, -, -, -, answer⟩ | ⟨_, _, _, -, -, -, answer⟩
    · exact Or.inl ⟨call, answer⟩
    · exact Or.inr (Or.inl answer)
    · exact Or.inr (Or.inr (Or.inl ⟨name, answer⟩))
    · exact Or.inr (Or.inr (Or.inr answer))
  · intro call source answer printed keys
    obtain ⟨sole, arguments, declared, carries, pass⟩ := (accepted call).mp answer
    have names := argumentNames_of_given given (mem_nodes_of_sole isFile held sole) carries
    obtain ⟨matcher, built, covers⟩ := ofCall_of_pass carries names pass printed keys
    exact ⟨matcher, arguments, declared, built, carries, pass, covers⟩

/-- A name in brackets. -/
def sampleOption (tag : Nat) (id : String) : Value :=
  .ofAttributes tag .list [("elts", .list (tag + 1) [sampleName (tag + 2) id])]

/-- `run(width, [depth], [width], 1, size=1)`: a repeated name, then an argument of another form,
then a keyword. -/
def sampleViolations : Value :=
  let one := Value.ofAttributes 30 .constant [("value", .int 1)]
  let arguments :=
    [sampleName 10 "width", sampleOption 14 "depth", sampleOption 20 "width", one]
  let size := Value.ofAttributes 32 .keyword [("arg", .str "size"), ("value", one)]
  sampleProgram 6 (.ofAttributes 1 .call [("func", sampleName 2 "run"),
    ("args", .list 4 arguments), ("keywords", .list 5 [size])])

/-- Of three violations the first one is answered. -/
theorem sampleViolations_answered :
    extract none sampleViolations = .error (.diagnosed (.duplicateName "width" none)) ∧
      ¬ ∃ call, extract none sampleViolations = .ok call := by
  have isFile : sampleViolations.isKind .file = true := rfl
  have answers := extract_answers_first_violation isFile rfl (by decide +kernel)
    (by decide +kernel) none
  have repeated := (answers.2.2.1 "width").mpr ⟨_, _, _, ⟨_, _, rfl, rfl, rfl, rfl⟩,
    ⟨rfl, ⟨_, rfl⟩, ⟨_, rfl⟩⟩,
    ⟨[sampleName 10 "width", sampleOption 14 "depth"], sampleOption 20 "width", _,
      [("width", .mandatory), ("depth", .optional)], .optional, rfl,
      ⟨.cons (.bare rfl rfl) (.cons (.bracketed rfl rfl rfl rfl) .nil), by decide⟩,
      .bracketed rfl rfl rfl rfl, by decide⟩⟩
  refine ⟨repeated, ?_⟩
  rintro ⟨call, returned⟩
  rw [repeated] at returned
  cases returned

end Signature

end CallSites
