import CallSites.Proofs.Classification

/-! # Regular trees

Parsing builds regular trees: every node has one slot for each of its fields, the arguments of a
call are expressions and its keywords are keyword nodes, the text of a name is not empty, and the
marks are positions in order and hold no node. New tags change none of this, and with tags that were
given anew such a tree is well formed.
-/

namespace CallSites

open CallSites.Tree (Value)

namespace Tree.Value

/-- Whether the slots are those of a call with expressions as arguments and keyword nodes. -/
def areCallSlots : List (Option Value) → Bool
  | [_, some (list _ arguments), some (list _ keywords)] =>
    arguments.all isExpression && keywords.all (isKind .keyword)
  | _ => false

/-- Whether the slots are those of a name with a text that is not empty. -/
def areNameSlots : List (Option Value) → Bool
  | [some (plain _ (.str id)), _] => !id.isEmpty
  | _ => false

/-- Whether marks are those of a span, from a line and a column to a line that is not above. -/
def areSpan : List (String × Value) → Bool
  | [("lineno", plain _ (.int line)), ("col_offset", plain _ (.int column)),
     ("end_lineno", plain _ (.int endLine)), ("end_col_offset", _)] =>
    decide (0 < line) && decide (0 ≤ column) && decide (line ≤ endLine)
  | _ => false

/-- Whether a node is built as parsing builds it, as far as it can be seen without going deeper. -/
def isRegular : Value → Bool
  | node _ kind slots marks => slots.length == kind.fields.length &&
    marks.all (fun mark => !mark.2.holdsNode) && (kind != .call || areCallSlots slots) &&
    (kind != .name || areNameSlots slots) && (marks.isEmpty || areSpan marks)
  | _ => true

mutual

/-- Whether all nodes of a value are regular. -/
def regular : Value → Bool
  | plain .. => true
  | list _ items => regularItems items
  | node tag kind slots marks => isRegular (node tag kind slots marks) && regularSlots slots

def regularItems : List Value → Bool
  | [] => true
  | v :: rest => regular v && regularItems rest

def regularSlots : List (Option Value) → Bool
  | [] => true
  | none :: rest => regularSlots rest
  | some v :: rest => regular v && regularSlots rest

end

theorem regularItems_iff {items : List Value} :
    regularItems items = true ↔ ∀ item ∈ items, item.regular = true := by
  induction items with
  | nil => simp [regularItems]
  | cons item rest ih => simp [regularItems, ih]

theorem regularSlots_map_some (fields : List Value) :
    regularSlots (fields.map some) = regularItems fields := by
  induction fields with
  | nil => rfl
  | cons field rest ih => rw [List.map_cons, regularSlots, regularItems, ih]

private theorem regular_of_slotChildren {slots : List (Option Value)}
    (all : regularSlots slots = true) {child : Value}
    (below : child ∈ slots.flatMap slotChildren) : child.regular = true := by
  induction slots with
  | nil => simp at below
  | cons slot rest ih =>
    rw [List.flatMap_cons, List.mem_append] at below
    rcases slot with _ | v
    · simp only [regularSlots] at all
      simp only [slotChildren, List.not_mem_nil, false_or] at below
      exact ih all below
    · simp only [regularSlots, Bool.and_eq_true] at all
      rcases below with below | below
      · cases v with
        | plain => simp [slotChildren] at below
        | list tag items =>
          have inside := (List.mem_filter.mp below).1
          exact regularItems_iff.mp all.1 child inside
        | node =>
          rw [List.mem_singleton.mp below]
          exact all.1
      · exact ih all.2 below

private theorem isRegular_of_regular {v : Value} (all : v.regular = true) : v.isRegular = true := by
  cases v with
  | node =>
    rw [regular, Bool.and_eq_true] at all
    exact all.1
  | _ => rfl

theorem isRegular_of_mem_nodes {tree v : Value} (all : tree.regular = true)
    (member : v ∈ tree.nodes) : v.isRegular = true := by
  induction tree using children_induction with
  | step tree ih =>
    rw [nodes_eq_cons] at member
    rcases List.mem_cons.mp member with rfl | member
    · exact isRegular_of_regular all
    · obtain ⟨child, below, member⟩ := List.mem_flatMap.mp member
      refine ih child below ?_ member
      cases tree with
      | node =>
        rw [regular, Bool.and_eq_true] at all
        exact regular_of_slotChildren all.2 below
      | _ => simp [children] at below

private theorem hasSlotPerField_of_isRegular {v : Value} (built : v.isRegular = true) :
    v.hasSlotPerField = true := by
  cases v with
  | node =>
    simp only [isRegular, Bool.and_eq_true] at built
    exact built.1.1.1.1
  | _ => rfl

/-- Regular calls have typed parts. -/
theorem hasTypedParts_of_isRegular {call : Value} (built : call.isRegular = true)
    (isCall : call.isKind .call = true) : call.hasTypedParts = true := by
  cases call with
  | node tag kind slots marks =>
    obtain rfl : kind = .call := by simpa [isKind, kind?] using isCall
    have parts : areCallSlots slots = true := by
      simp only [isRegular, Bool.and_eq_true] at built
      exact built.1.1.2
    unfold areCallSlots at parts
    split at parts
    · rename_i func tag' arguments tag'' keywords
      obtain ⟨-, listed, held⟩ := attr?_call tag func (some (list tag' arguments))
        (some (list tag'' keywords)) marks
      have known : Matcher.arguments? (node tag .call
          [func, some (list tag' arguments), some (list tag'' keywords)] marks) = some arguments :=
        Matcher.arguments?_eq_some.mpr ⟨isCall, tag', listed⟩
      rw [Bool.and_eq_true] at parts
      rw [hasTypedParts, known, held, Option.getD_some, parts.1, Bool.true_and, slotChildren]
      exact List.all_eq_true.mpr fun keyword member =>
        List.all_eq_true.mp parts.2 keyword (List.mem_filter.mp member).1
    · cases parts
  | _ => simp [isKind, kind?] at isCall

mutual

private theorem bareMarks_of_regular {v : Value} (all : v.regular = true) : v.bareMarks = true := by
  cases v with
  | plain => rfl
  | list tag items =>
    rw [regular] at all
    rw [bareMarks]
    exact bareItems_of_regular all
  | node tag kind slots marks =>
    simp only [regular, isRegular, Bool.and_eq_true] at all
    rw [bareMarks, all.1.1.1.1.2, Bool.true_and]
    exact bareSlots_of_regular all.2

private theorem bareItems_of_regular {items : List Value} (all : regularItems items = true) :
    bareItems items = true := by
  cases items with
  | nil => rfl
  | cons v rest =>
    rw [regularItems, Bool.and_eq_true] at all
    rw [bareItems, bareMarks_of_regular all.1, bareItems_of_regular all.2, Bool.and_self]

private theorem bareSlots_of_regular {slots : List (Option Value)}
    (all : regularSlots slots = true) : bareSlots slots = true := by
  cases slots with
  | nil => rfl
  | cons slot rest =>
    cases slot with
    | none =>
      rw [regularSlots] at all
      rw [bareSlots]
      exact bareSlots_of_regular all
    | some v =>
      rw [regularSlots, Bool.and_eq_true] at all
      rw [bareSlots, bareMarks_of_regular all.1, bareSlots_of_regular all.2, Bool.and_self]

end

private theorem kind?_retag (next : Nat) (v : Value) : (v.retag next).1.kind? = v.kind? := by
  cases v <;> rfl

private theorem isExpression_retag (next : Nat) (v : Value) :
    (v.retag next).1.isExpression = v.isExpression := by
  cases v <;> rfl

private theorem all_retagItems {test : Value → Bool}
    (blind : ∀ next v, test (v.retag next).1 = test v) (next : Nat) (items : List Value) :
    (retagItems next items).1.all test = items.all test := by
  induction items generalizing next with
  | nil => rfl
  | cons v rest ih => simp only [retagItems, List.all_cons, blind, ih]

private theorem length_retagSlots (next : Nat) (slots : List (Option Value)) :
    (retagSlots next slots).1.length = slots.length := by
  induction slots generalizing next with
  | nil => rfl
  | cons slot rest ih =>
    cases slot with
    | none => simp only [retagSlots, List.length_cons, ih]
    | some v => simp only [retagSlots, List.length_cons, ih]

private theorem areCallSlots_retagSlots {next : Nat} {slots : List (Option Value)}
    (parts : areCallSlots slots = true) : areCallSlots (retagSlots next slots).1 = true := by
  unfold areCallSlots at parts
  split at parts
  · rename_i func tag arguments tag' keywords
    have expressions := all_retagItems isExpression_retag
    have keywordNodes : ∀ next items, (retagItems next items).1.all (isKind .keyword) =
        items.all (isKind .keyword) :=
      all_retagItems fun next v => by rw [isKind, isKind, kind?_retag]
    cases func with
    | none => simpa only [retagSlots, retag, areCallSlots, expressions, keywordNodes] using parts
    | some v => simpa only [retagSlots, retag, areCallSlots, expressions, keywordNodes] using parts
  · cases parts

private theorem areNameSlots_retagSlots {next : Nat} {slots : List (Option Value)}
    (parts : areNameSlots slots = true) : areNameSlots (retagSlots next slots).1 = true := by
  unfold areNameSlots at parts
  split at parts
  · rename_i tag id usage
    cases usage with
    | none => simpa only [retagSlots, retag, areNameSlots] using parts
    | some v => simpa only [retagSlots, retag, areNameSlots] using parts
  · cases parts

mutual

/-- New tags leave a tree as regular as it was. -/
theorem regular_retag {v : Value} (all : v.regular = true) (next : Nat) :
    (v.retag next).1.regular = true := by
  cases v with
  | plain => rfl
  | list tag items =>
    rw [regular] at all
    exact regularItems_retagItems all (next + 1)
  | node tag kind slots marks =>
    simp only [regular, isRegular, Bool.and_eq_true] at all
    obtain ⟨⟨⟨⟨⟨shape, bare⟩, parts⟩, named⟩, span⟩, below⟩ := all
    simp only [retag, regular, isRegular, length_retagSlots, shape, bare, span, Bool.true_and,
      regularSlots_retagSlots below (next + 1), Bool.and_true, Bool.and_eq_true]
    rw [Bool.or_eq_true] at parts named ⊢
    rw [Bool.or_eq_true]
    exact ⟨parts.imp_right areCallSlots_retagSlots, named.imp_right areNameSlots_retagSlots⟩

private theorem regularItems_retagItems {items : List Value} (all : regularItems items = true)
    (next : Nat) : regularItems (retagItems next items).1 = true := by
  cases items with
  | nil => rfl
  | cons v rest =>
    rw [regularItems, Bool.and_eq_true] at all
    rw [retagItems, regularItems, regular_retag all.1, regularItems_retagItems all.2,
      Bool.and_self]

private theorem regularSlots_retagSlots {slots : List (Option Value)}
    (all : regularSlots slots = true) (next : Nat) :
    regularSlots (retagSlots next slots).1 = true := by
  cases slots with
  | nil => rfl
  | cons slot rest =>
    cases slot with
    | none =>
      rw [regularSlots] at all
      exact regularSlots_retagSlots all next
    | some v =>
      rw [regularSlots, Bool.and_eq_true] at all
      rw [retagSlots, regularSlots, regular_retag all.1, regularSlots_retagSlots all.2,
        Bool.and_self]

end

/-- With new tags a regular tree has all that is asked of the trees to be scanned. -/
theorem wellFormed_retag {v : Value} (isNode : v.isNode = true) (all : v.regular = true)
    (next : Nat) : (v.retag next).1.WellFormed ∧ (v.retag next).1.CallsTyped ∧
      (v.retag next).1.bareMarks = true := by
  have renewed := regular_retag all next
  have root : (v.retag next).1.isNode = true := by
    cases v with
    | node => rfl
    | _ => simp [Value.isNode] at isNode
  refine ⟨⟨?_, coherent_retag next root⟩, ?_, bareMarks_of_regular renewed⟩
  · intro w member
    exact hasSlotPerField_of_isRegular (isRegular_of_mem_nodes renewed member)
  · intro call member isCall
    exact hasTypedParts_of_isRegular (isRegular_of_mem_nodes renewed member) isCall

end Tree.Value

end CallSites
