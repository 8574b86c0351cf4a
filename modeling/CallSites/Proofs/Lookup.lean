import CallSites.Proofs.Returning
import CallSites.Proofs.Tree.Printer.Signature

/-! # Looking up arguments by name

A match is asked for a name in two ways: `binding?` returns the first binding of a parameter with
that name, and the table of `arguments` keeps the last text. They agree, since a name is repeated
only where one object occurs as several arguments: the names of a matcher are different texts, each
argument fills the parameter at its first place, and an object has one source text. If callee and
arguments are different objects, nothing is repeated, and the table lists the arguments in order.
-/

namespace CallSites

open CallSites.Tree (TraversalKeys Value)

/-! ### Names are texts -/

namespace Tree.Value

theorem isSome_text?_iff {v : Value} :
    v.text?.isSome = true ↔ ∃ tag text, v = .plain tag (.str text) := by
  constructor
  · intro isText
    cases v with
    | plain tag content =>
      cases content with
      | str text => exact ⟨tag, text, rfl⟩
      | _ => cases isText
    | _ => cases isText
  · rintro ⟨tag, text, rfl⟩
    rfl

/-- Texts are alike exactly if they say the same. -/
theorem alike_iff_of_texts {v w : Value} (left : v.text?.isSome = true)
    (right : w.text?.isSome = true) : v.alike w = true ↔ v.text? = w.text? := by
  obtain ⟨tag, text, rfl⟩ := isSome_text?_iff.mp left
  obtain ⟨tag', text', rfl⟩ := isSome_text?_iff.mp right
  have texts : Plain.alike (.str text) (.str text') = (text == text') := rfl
  simp only [alike, texts, same, text?, Bool.or_eq_true, Bool.and_eq_true, beq_iff_eq,
    Plain.str.injEq, Option.some.injEq]
  exact ⟨fun either => either.elim And.left id, Or.inr⟩

end Tree.Value

namespace Signature

/-- A valid signature has no keywords. -/
theorem keywords_of_validate {text : Option String} {call : Value}
    (valid : validate text call = .ok ()) :
    ∃ keywords, call.attr? "keywords" = some keywords ∧ keywords.truthy = false := by
  unfold validate at valid
  split at valid
  · simp only [Outcome.bind_eq_ok, required_eq_ok] at valid
    obtain ⟨_, -, _, -, _, -, keywords, held, rest⟩ := valid
    refine ⟨keywords, held, ?_⟩
    split at rest
    · cases rest
    · exact Bool.eq_false_iff.mpr ‹_›
  · cases valid

/-- Arguments that declare names are held by a list. -/
theorem listed_of_declaredName? {holder argument name : Value} {arguments : List Value}
    (run : elements holder = .ok arguments) (member : argument ∈ arguments)
    (read : Parameter.declaredName? argument = some name) :
    ∃ tag, holder = .list tag arguments := by
  cases holder with
  | list tag items =>
    cases run
    exact ⟨tag, rfl⟩
  | plain tag content =>
    -- Texts and bytes run through plain values, which declare no names.
    simp only [elements, Value.elements?] at run
    cases contents : content.elements? with
    | none =>
      rw [contents] at run
      cases run
    | some items =>
      rw [contents] at run
      cases run
      obtain ⟨item, -, rfl⟩ := List.mem_map.mp member
      cases read
  | node => cases run

end Signature

/-- The parameters of a constructed matcher have texts as names, since its signature was printed. -/
theorem Matcher.isSome_text?_of_ofCall {call : Value} {keys : Option TraversalKeys}
    {matcher : Matcher} (built : ofCall call keys = .ok matcher) :
    ∀ parameter ∈ matcher.parameters, parameter.name.text?.isSome = true := by
  intro parameter declared
  obtain ⟨valid, holder, arguments, held, run, declares, printed, -⟩ := ofCall_eq_ok.mp built
  have reads := (Outcome.mapM_eq_ok.mp declares).imp
    fun _ _ => Parameter.declaredName?_of_ofArgument
  obtain ⟨argument, member, read⟩ := Outcome.exists_of_forall₂ reads declared
  obtain ⟨tag, rfl⟩ := Signature.listed_of_declaredName? run member read
  obtain ⟨keywords, named, empty⟩ := Signature.keywords_of_validate valid
  exact Tree.Printer.isSome_text?_of_source (Signature.validate_eq_ok valid).1 held named empty
    (List.forall₂_map_right_iff.mpr reads) printed _ (List.mem_map_of_mem declared)

/-! ### The table of texts -/

namespace Match

/-- The names and texts of the bindings, in order. -/
def entries (found : Match) : List (Value × String) :=
  found.bindings.map fun binding => (binding.parameter.name, binding.source)

/-- The table that comes about when entries are put into it one after the other. -/
def tabulate (entries : List (Value × String)) : List (Value × String) :=
  entries.foldl (fun texts entry => put entry.1 entry.2 texts) []

/-- The text that a table holds for a name. -/
def textOf? (texts : List (Value × String)) (name : Value) : Option String :=
  (texts.find? fun entry => entry.1.alike name).map Prod.snd

/-- Entries with one name are equal. -/
def Consistent (entries : List (Value × String)) : Prop :=
  entries.Pairwise fun earlier later => earlier.1.alike later.1 = true → earlier = later

/-- A table with one entry for each name, under which the first one is found. -/
structure Tabulates (texts entries : List (Value × String)) : Prop where
  sublist : texts.Sublist entries
  apart : texts.Pairwise fun earlier later => earlier.1.alike later.1 = false
  finds : ∀ name, texts.find? (fun entry => entry.1.alike name) =
    entries.find? fun entry => entry.1.alike name

theorem Tabulates.nil : Tabulates [] [] := ⟨.refl _, .nil, fun _ => rfl⟩

/-- A new name is put at the end. -/
theorem put_of_fresh {name : Value} {source : String} {texts : List (Value × String)}
    (fresh : ∀ entry ∈ texts, entry.1.alike name = false) :
    put name source texts = texts ++ [(name, source)] := by
  induction texts with
  | nil => rfl
  | cons entry texts ih =>
    rw [List.forall_mem_cons] at fresh
    rw [put, fresh.1, if_neg Bool.false_ne_true, ih fresh.2, List.cons_append]

/-- To put what is there already changes nothing. -/
theorem put_of_known {name : Value} {source : String} {texts : List (Value × String)}
    (known : ∃ entry ∈ texts, entry.1.alike name = true)
    (consistent : ∀ entry ∈ texts, entry.1.alike name = true → entry = (name, source)) :
    put name source texts = texts := by
  induction texts with
  | nil => simp at known
  | cons entry texts ih =>
    rw [List.forall_mem_cons] at consistent
    rw [put]
    split
    · rename_i alike
      rw [consistent.1 alike]
    · rename_i other
      obtain ⟨entry', member, alike⟩ := known
      rcases List.mem_cons.mp member with rfl | member
      · exact absurd alike other
      · rw [ih ⟨entry', member, alike⟩ consistent.2]

/-- One more entry. -/
theorem Tabulates.put {texts entries : List (Value × String)} {entry : Value × String}
    (tabulates : Tabulates texts entries) (consistent : Consistent (entries ++ [entry])) :
    Tabulates (put entry.1 entry.2 texts) (entries ++ [entry]) := by
  have agree : ∀ earlier ∈ texts, earlier.1.alike entry.1 = true → earlier = entry := by
    intro earlier member
    exact (List.pairwise_append.mp consistent).2.2 earlier (tabulates.sublist.mem member) entry
      (List.mem_singleton_self _)
  by_cases known : ∃ earlier ∈ texts, earlier.1.alike entry.1 = true
  · rw [put_of_known known agree]
    refine ⟨tabulates.sublist.trans (List.sublist_append_left ..), tabulates.apart, ?_⟩
    intro name
    obtain ⟨earlier, member, alike⟩ := known
    obtain rfl := agree earlier member alike
    rw [tabulates.finds, List.find?_append]
    cases found : entries.find? fun entry => entry.1.alike name with
    | some first => rfl
    | none =>
      have other := List.find?_eq_none.mp found earlier (tabulates.sublist.mem member)
      rw [List.find?_singleton, if_neg other, Option.none_or]
  · have fresh : ∀ earlier ∈ texts, earlier.1.alike entry.1 = false := by
      intro earlier member
      exact Bool.eq_false_iff.mpr fun alike => known ⟨earlier, member, alike⟩
    rw [put_of_fresh fresh]
    refine ⟨tabulates.sublist.append_right _, ?_, ?_⟩
    · refine List.pairwise_append.mpr ⟨tabulates.apart, List.pairwise_singleton .., ?_⟩
      intro earlier member later single
      rw [List.mem_singleton.mp single]
      exact fresh earlier member
    · intro name
      rw [List.find?_append, List.find?_append, tabulates.finds]

/-- All entries, one after the other. -/
theorem Tabulates.foldl {texts before : List (Value × String)} (tabulates : Tabulates texts before)
    (rest : List (Value × String)) (consistent : Consistent (before ++ rest)) :
    Tabulates (rest.foldl (fun texts entry => Match.put entry.1 entry.2 texts) texts)
      (before ++ rest) := by
  induction rest generalizing texts before with
  | nil => rwa [List.append_nil]
  | cons entry rest ih =>
    rw [List.append_cons] at consistent ⊢
    exact ih (tabulates.put (List.pairwise_append.mp consistent).1) consistent

private theorem tabulates_tabulate {entries : List (Value × String)}
    (consistent : Consistent entries) : Tabulates (tabulate entries) entries :=
  Tabulates.nil.foldl entries consistent

private theorem foldl_put_of_apart {before rest : List (Value × String)}
    (apart : (before ++ rest).Pairwise fun earlier later => earlier.1.alike later.1 = false) :
    rest.foldl (fun texts entry => put entry.1 entry.2 texts) before = before ++ rest := by
  induction rest generalizing before with
  | nil => rw [List.foldl_nil, List.append_nil]
  | cons entry rest ih =>
    have fresh : ∀ earlier ∈ before, earlier.1.alike entry.1 = false := by
      intro earlier member
      exact (List.pairwise_append.mp apart).2.2 earlier member entry (List.mem_cons_self ..)
    rw [List.append_cons] at apart ⊢
    rw [List.foldl_cons, put_of_fresh fresh]
    exact ih apart

/-- Entries with different names are a table already. -/
theorem tabulate_of_apart {entries : List (Value × String)}
    (apart : entries.Pairwise fun earlier later => earlier.1.alike later.1 = false) :
    tabulate entries = entries :=
  foldl_put_of_apart apart

/-- Names that are texts can be keys of a table. -/
theorem arguments_eq_ok {found : Match}
    (texts : ∀ binding ∈ found.bindings, binding.parameter.name.text?.isSome = true) :
    found.arguments = .ok (tabulate found.entries) := by
  rw [arguments, tabulate, entries]
  generalize ([] : List (Value × String)) = before
  generalize found.bindings = bindings at texts
  induction bindings generalizing before with
  | nil => rfl
  | cons binding bindings ih =>
    rw [List.forall_mem_cons] at texts
    obtain ⟨tag, text, name⟩ := Value.isSome_text?_iff.mp texts.1
    rw [List.foldlM_cons, List.map_cons, List.foldl_cons, ← ih _ texts.2, name]
    rfl

/-- In a table of its entries a match finds what it finds among its bindings. -/
theorem Tabulates.find?_eq {found : Match} {texts : List (Value × String)}
    (tabulates : Tabulates texts found.entries) (name : Value) :
    texts.find? (fun entry => entry.1.alike name) =
      (found.binding? name).map fun binding => (binding.parameter.name, binding.source) := by
  rw [tabulates.finds, entries, List.find?_map]
  rfl

private theorem Tabulates.textOf?_eq {found : Match} {texts : List (Value × String)}
    (tabulates : Tabulates texts found.entries) (name : Value) :
    textOf? texts name = (found.binding? name).map Binding.source := by
  rw [textOf?, tabulates.find?_eq, Option.map_map]
  rfl

private theorem Tabulates.isSome_binding?_iff {found : Match} {texts : List (Value × String)}
    (tabulates : Tabulates texts found.entries) (name : Value) :
    (found.binding? name).isSome = true ↔
      ∃ key ∈ texts.map Prod.fst, key.alike name = true := by
  have finds := congrArg Option.isSome (tabulates.find?_eq name)
  rw [Option.isSome_map] at finds
  rw [← finds, List.find?_isSome]
  simp only [List.mem_map, exists_exists_and_eq_and]

end Match

/-! ### Bindings with one name -/

theorem Tree.Value.isNode_of_same {v w : Value} (same : v.same w = true)
    (isNode : w.isNode = true) : v.isNode = true := by
  cases w with
  | node =>
    cases v with
    | node => rfl
    | _ => cases same
  | _ => cases isNode

/-- Names that are different texts stand at different places. -/
theorem Parameter.place_eq_of_alike {parameters : List Parameter}
    (texts : ∀ parameter ∈ parameters, parameter.name.text?.isSome = true)
    (apart : parameters.Pairwise fun p q => p.name.alike q.name = false) {place place' : Nat}
    {p q : Parameter} (at_ : parameters[place]? = some p) (at' : parameters[place']? = some q)
    (alike : p.name.alike q.name = true) : place = place' := by
  have text := texts p (List.mem_of_getElem? at_)
  have text' := texts q (List.mem_of_getElem? at')
  have alike' : q.name.alike p.name = true :=
    (Value.alike_iff_of_texts text' text).mpr ((Value.alike_iff_of_texts text text').mp alike).symm
  obtain ⟨bound, rfl⟩ := List.getElem?_eq_some_iff.mp at_
  obtain ⟨bound', rfl⟩ := List.getElem?_eq_some_iff.mp at'
  rw [List.pairwise_iff_getElem] at apart
  rcases Nat.lt_trichotomy place place' with less | equal | greater
  · rw [apart place place' bound bound' less] at alike
    cases alike
  · exact equal
  · rw [apart place' place bound' bound greater] at alike'
    cases alike'

namespace Scan

open Matcher (IsCall ObjectsApart)

/-- Only expressions are bound. -/
theorem isExpression_of_buildMatch {matcher : Matcher} {call : Value} {found : Match}
    (success : buildMatch matcher call = .ok found) :
    ∀ binding ∈ found.bindings, binding.node.isExpression = true := by
  simp only [buildMatch, Outcome.bind_eq_ok] at success
  obtain ⟨bound, bindings, location, -, made⟩ := success
  obtain ⟨-, -, -, rfl⟩ := Match.make_eq_ok.mp made
  exact (bindings_eq_ok bindings).2.2

section

variable {matcher : Matcher} {call func : Value} {arguments : List Value} {found : Match}

/-- What is bound is an argument that fills its parameter. -/
theorem Reports.fills (reports : Reports matcher call found) (isCall : IsCall call func arguments)
    {binding : Binding} (member : binding ∈ found.bindings) :
    binding.node ∈ arguments ∧
      matcher.parameterOf? binding.node call = some binding.parameter := by
  have pair := List.mem_map_of_mem (f := fun binding => (binding.node, binding.parameter)) member
  rw [reports.bindings_eq isCall] at pair
  obtain ⟨argument, among, fills⟩ := List.mem_filterMap.mp pair
  obtain ⟨parameter, fills, same⟩ := Option.map_eq_some_iff.mp fills
  obtain ⟨rfl, rfl⟩ := Prod.mk.inj same
  exact ⟨among, fills⟩

/-- Bindings with one name bind one object, so that they have one text. -/
theorem Reports.consistent {signature : Value} {keys : Option TraversalKeys}
    (built : Matcher.ofCall signature keys = .ok matcher) (accepted : matcher.test call = true)
    (reports : Reports matcher call found) (isCall : IsCall call func arguments)
    (expressions : ∀ binding ∈ found.bindings, binding.node.isExpression = true)
    (coherent : ∀ v ∈ call.children, ∀ w ∈ call.children, v.same w = true → v = w) :
    Match.Consistent found.entries := by
  have filled := Matcher.filled_of_ofCall built arguments.length
  have texts : ∀ parameter ∈ matcher.filled arguments.length,
      parameter.name.text?.isSome = true := fun parameter member =>
    Matcher.isSome_text?_of_ofCall built parameter (filled.2.1.mem member)
  have below : ∀ v ∈ arguments, v.isNode = true → v ∈ call.children := by
    intro v among isNode
    obtain ⟨tag, listed⟩ := isCall.listed
    exact Value.mem_children_of_attr? isCall.isKind (by decide) listed
      (List.mem_filter.mpr ⟨among, isNode⟩)
  have agree : ∀ earlier ∈ found.bindings, ∀ later ∈ found.bindings,
      earlier.parameter.name.alike later.parameter.name = true →
        (earlier.parameter.name, earlier.source) = (later.parameter.name, later.source) := by
    intro earlier member later member' alike
    obtain ⟨among, fills⟩ := reports.fills isCall member
    obtain ⟨among', fills'⟩ := reports.fills isCall member'
    obtain ⟨-, place, ⟨⟨first, at_, same⟩, -⟩, kept⟩ :=
      (Matcher.parameterOf?_of_isCall accepted isCall).mp fills
    obtain ⟨-, place', ⟨⟨first', at', same'⟩, -⟩, kept'⟩ :=
      (Matcher.parameterOf?_of_isCall accepted isCall).mp fills'
    obtain rfl := Parameter.place_eq_of_alike texts filled.1 kept kept' alike
    obtain rfl : first = first' := Option.some.inj (at_.symm.trans at')
    have sameParameter := Option.some.inj (kept.symm.trans kept')
    have isNode := Value.isNode_of_isExpression (expressions earlier member)
    have isNode' := Value.isNode_of_isExpression (expressions later member')
    have inside := below first (List.mem_of_getElem? at_) (Value.isNode_of_same same isNode)
    have sameNode : earlier.node = later.node :=
      (coherent first inside _ (below _ among isNode) same).symm.trans
        (coherent first inside _ (below _ among' isNode') same')
    have printed := reports.printed earlier member
    rw [sameNode, reports.printed later member'] at printed
    rw [sameParameter, Except.ok.inj printed]
  rw [Match.Consistent, Match.entries, List.pairwise_map]
  exact List.pairwise_of_forall_mem_list fun earlier member later member' =>
    agree earlier member later member'

private theorem filterMap_eq_zip {α β : Type} {f : α → Option β} {items : List α} {results : List β}
    (all : items.map f = results.map some) :
    items.filterMap (fun item => (f item).map (item, ·)) = items.zip results := by
  induction items generalizing results with
  | nil => rfl
  | cons item items ih =>
    cases results with
    | nil => cases all
    | cons result results =>
      obtain ⟨first, rest⟩ := List.cons_eq_cons.mp all
      rw [List.filterMap_cons_some (by rw [first]; rfl), List.zip_cons_cons, ih rest]

/-- If callee and arguments are different objects, there is one entry for each argument: the name of
the parameter that it fills, and its text. -/
theorem Reports.forall₂_entries (accepted : matcher.test call = true)
    (reports : Reports matcher call found) (isCall : IsCall call func arguments)
    (apart : ObjectsApart func arguments) :
    List.Forall₂ (fun argument entry => ∃ parameter,
        matcher.parameterOf? argument call = some parameter ∧ entry.1 = parameter.name ∧
          argument.source = .ok entry.2) arguments found.entries ∧
      found.entries.map Prod.fst = (matcher.filled arguments.length).map Parameter.name := by
  have fills := Matcher.map_parameterOf? accepted isCall apart
  have length : arguments.length = (matcher.filled arguments.length).length := by
    simpa only [List.length_map] using congrArg List.length fills
  have pairs := (reports.bindings_eq isCall).trans (filterMap_eq_zip fills)
  have nodes : found.bindings.map Binding.node = arguments := by
    have firsts := congrArg (List.map Prod.fst) pairs
    rwa [List.map_map, List.map_fst_zip (Nat.le_of_eq length)] at firsts
  have parameters : found.bindings.map Binding.parameter = matcher.filled arguments.length := by
    have seconds := congrArg (List.map Prod.snd) pairs
    rwa [List.map_map, List.map_snd_zip (Nat.le_of_eq length.symm)] at seconds
  refine ⟨?_, ?_⟩
  · rw [Match.entries, List.forall₂_map_right_iff]
    conv in arguments => rw [← nodes]
    rw [List.forall₂_map_left_iff, List.forall₂_same]
    intro binding member
    exact ⟨binding.parameter, (reports.fills isCall member).2, rfl, reports.printed binding member⟩
  · rw [← parameters, Match.entries, List.map_map, List.map_map]
    rfl

/-- The names under which arguments are bound are texts. -/
theorem Reports.isSome_text? {signature : Value} {keys : Option TraversalKeys}
    (built : Matcher.ofCall signature keys = .ok matcher) (accepted : matcher.test call = true)
    (reports : Reports matcher call found) (isCall : IsCall call func arguments) :
    ∀ binding ∈ found.bindings, binding.parameter.name.text?.isSome = true := by
  intro binding member
  obtain ⟨-, fills⟩ := reports.fills isCall member
  obtain ⟨-, place, -, kept⟩ := (Matcher.parameterOf?_of_isCall accepted isCall).mp fills
  have sublist := (Matcher.filled_of_ofCall built arguments.length).2.1
  exact Matcher.isSome_text?_of_ofCall built _ (sublist.mem (List.mem_of_getElem? kept))

/-- If callee and arguments are different objects, the entries are a table already. -/
theorem Reports.apart_entries {signature : Value} {keys : Option TraversalKeys}
    (built : Matcher.ofCall signature keys = .ok matcher) (accepted : matcher.test call = true)
    (reports : Reports matcher call found) (isCall : IsCall call func arguments)
    (apart : ObjectsApart func arguments) :
    found.entries.Pairwise fun earlier later => earlier.1.alike later.1 = false := by
  have names := (Matcher.filled_of_ofCall built arguments.length).1
  rw [← List.pairwise_map (R := fun v w : Value => v.alike w = false)] at names ⊢
  rwa [(reports.forall₂_entries accepted isCall apart).2]

end

/-- The bindings of a match and its table of arguments hold the same texts under the same names,
also where one object occurs as several arguments. If callee and arguments are different objects,
the table has one entry for each argument, in order, with its text and the name of the parameter
that it fills; these are different declared names, and those of all mandatory parameters are among
them. -/
theorem scan_lookups_agree {tree : Value} {matchers : List Matcher} {found : List Match}
    (wellFormed : tree.WellFormed)
    (built : ∀ matcher ∈ matchers, ∃ call keys, Matcher.ofCall call keys = .ok matcher)
    (returned : scan tree matchers = .ok found) :
    List.Forall₂ (fun entry match_ => Reports entry.matcher entry.call match_ ∧
        ∃ texts, match_.arguments = .ok texts ∧
          (∀ name, (match_.binding? name).isSome = true ↔
            ∃ key ∈ texts.map Prod.fst, key.alike name = true) ∧
          (∀ name, Match.textOf? texts name = (match_.binding? name).map Binding.source) ∧
          (∀ key ∈ texts.map Prod.fst, key.text?.isSome = true) ∧
          ∀ func arguments, IsCall entry.call func arguments → ObjectsApart func arguments →
            texts.length = arguments.length ∧
            List.Forall₂ (fun argument text => ∃ parameter,
              entry.matcher.parameterOf? argument entry.call = some parameter ∧
                text.1 = parameter.name ∧ argument.source = .ok text.2) arguments texts ∧
            (texts.map Prod.fst).Pairwise (fun key key' => key.text? ≠ key'.text?) ∧
            (texts.map Prod.fst).Sublist (entry.matcher.parameters.map Parameter.name) ∧
            ∀ parameter ∈ entry.matcher.parameters, parameter.isOptional = false →
              parameter.name ∈ texts.map Prod.fst)
      (acceptances tree matchers) found := by
  have reported := (List.forall₂_and_left _ _).mpr
    ⟨fun _ member => member, (scan_eq_ok.mp returned).2⟩
  refine reported.imp ?_
  rintro entry match_ ⟨entered, success⟩
  obtain ⟨among, accepted⟩ := mem_acceptances entered
  obtain ⟨signature, keys, constructed⟩ := built _ among
  obtain ⟨func, arguments, isCall, -, -⟩ := Matcher.isCall_of_test accepted
  have reports := reports_of_buildMatch accepted success
  have visited : entry.call ∈ tree.nodes :=
    (List.mem_filter.mp (call_mem_of_acceptances entered)).1
  have coherent : ∀ v ∈ entry.call.children, ∀ w ∈ entry.call.children,
      v.same w = true → v = w := by
    intro v below w below'
    exact wellFormed.coherent v (Value.mem_nodes_of_child visited below)
      w (Value.mem_nodes_of_child visited below')
  have consistent := reports.consistent constructed accepted isCall
    (isExpression_of_buildMatch success) coherent
  have names := reports.isSome_text? constructed accepted isCall
  have tabulates := Match.tabulates_tabulate consistent
  have table := Match.arguments_eq_ok names
  have texts : ∀ key ∈ match_.entries.map Prod.fst, key.text?.isSome = true := by
    rw [Match.entries, List.map_map, List.forall_mem_map]
    exact names
  refine ⟨reports, _, table, tabulates.isSome_binding?_iff, tabulates.textOf?_eq, ?_, ?_⟩
  · intro key member
    exact texts key ((tabulates.sublist.map Prod.fst).mem member)
  · intro func' arguments' isCall' apart
    have different := reports.apart_entries constructed accepted isCall' apart
    obtain ⟨filled, declared⟩ := reports.forall₂_entries accepted isCall' apart
    obtain ⟨-, sublist, mandatory⟩ := Matcher.filled_of_ofCall constructed arguments'.length
    rw [Match.tabulate_of_apart different]
    refine ⟨filled.length_eq.symm, filled, ?_, ?_, ?_⟩
    · rw [← List.pairwise_map (R := fun v w : Value => v.alike w = false)] at different
      refine different.imp_of_mem ?_
      intro key key' member member' other same
      rw [(Value.alike_iff_of_texts (texts key member) (texts key' member')).mpr same] at other
      cases other
    · rw [declared]
      exact sublist.map Parameter.name
    · intro parameter member needed
      rw [declared]
      exact List.mem_map_of_mem (mandatory parameter member needed)

open Matcher (sampleCall sampleMatcher)

/-- The file `m.f(m.f(x), y)`, and below it the call `m.f(z, z)` in which `z` is one object. -/
def sampleRepeated : Value :=
  .ofAttributes 60 .file [("body", .list 61
    [sampleTree, sampleCall 70 [sampleName 75 "z", sampleName 75 "z"]])]

private theorem sampleRepeated_wellFormed : sampleRepeated.WellFormed where
  shaped := by decide +kernel
  coherent := by
    -- The last node is the one before it; all others are different objects.
    have twice : sampleRepeated.nodes = sampleRepeated.nodes.dropLast ++ [sampleName 75 "z"] := rfl
    have once : ∀ v ∈ sampleRepeated.nodes, v ∈ sampleRepeated.nodes.dropLast := by
      intro v member
      rw [twice, List.mem_append, List.mem_singleton] at member
      rcases member with before | rfl
      · exact before
      · exact List.mem_of_getLast? rfl
    have apart : ∀ v ∈ sampleRepeated.nodes.dropLast, ∀ w ∈ sampleRepeated.nodes.dropLast,
        v.same w = true → v = w := Value.coherent_of_apart (by decide +kernel)
    exact fun v member w member' => apart v (once v member) w (once w member')

/-- In `m.f(z, z)` the one object is bound twice, under the same name. -/
theorem sampleRepeated_looked_up : ∃ found, scan sampleRepeated [sampleMatcher] = .ok found ∧
    (found.map fun match_ => match_.bindings.length) = [2, 1, 2] ∧
    ∀ match_ ∈ found, ∃ texts, match_.arguments = .ok texts ∧
      ∀ name, Match.textOf? texts name = (match_.binding? name).map Binding.source := by
  obtain ⟨found, returned⟩ : ∃ found, scan sampleRepeated [sampleMatcher] = .ok found :=
    Outcome.exists_eq_ok (by decide +kernel)
  have built : ∀ matcher ∈ [sampleMatcher], ∃ call keys, Matcher.ofCall call keys = .ok matcher :=
    List.forall_mem_singleton.mpr ⟨_, _, Matcher.sampleMatcher_built⟩
  have agreed := scan_lookups_agree sampleRepeated_wellFormed built returned
  have counted : (scan sampleRepeated [sampleMatcher]).toOption.map
      (List.map fun match_ => match_.bindings.length) = some [2, 1, 2] := by decide +kernel
  rw [returned] at counted
  refine ⟨found, returned, Option.some.inj counted, ?_⟩
  intro match_ member
  obtain ⟨_, -, -, texts, table, -, finds, -⟩ := Outcome.exists_of_forall₂ agreed member
  exact ⟨texts, table, finds⟩

end Scan

end CallSites
