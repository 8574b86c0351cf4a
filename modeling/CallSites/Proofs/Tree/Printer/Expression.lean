import CallSites.Proofs.Outcome
import CallSites.Proofs.Tree.Printer.Agreement
import CallSites.Tree.Printer

/-! # Expressions print alike

Every printing step of expressions respects a correspondence of nodes: one lemma for each step, in
the order of the steps. By induction on the bound the source texts of corresponding nodes are the
same.
-/

namespace CallSites.Tree.Printer

open Value

variable {N : Value → Value → Prop} {v w : Value}

private theorem agree_writeShown (same : SameShape v w) :
    Agree N Eq (if v.isTooLong then throw .badValue else write v.displayItem)
      (if w.isTooLong then throw .badValue else write w.displayItem) := by
  rw [eq_of_shape isTooLong_shape same, eq_of_shape displayItem_shape same]
  exact .ite (.throw _) (agree_write _)

private theorem agree_writeConstant (aligned : Aligned N v w) :
    Agree N Eq (writeConstant v) (writeConstant w) := by
  have shown := agree_writeShown (N := N) aligned.shape
  obtain ⟨tag, tag', content, rfl, rfl⟩ | ⟨_, _, _, _, rfl, rfl, -⟩ |
    ⟨_, _, _, _, _, _, _, rfl, rfl, -⟩ := aligned.cases
  · cases content with
    | float => exact agree_write _
    | complex => exact agree_write _
    | str | surrogates =>
      refine Agree.get.bind fun out out' outputs => ?_
      rw [outputs.plainQuotes]
      exact .ite (agree_write _) (agree_write _)
    | _ => exact shown
  · exact shown
  · exact shown

private theorem agree_wholeNumber (aligned : Aligned N v w) :
    Agree N Eq (wholeNumber v) (wholeNumber w) := by
  unfold wholeNumber
  rw [eq_of_shape plain?_shape aligned.shape]
  split
  · exact .pure rfl
  · exact .pure rfl
  · exact .throw _

private theorem agree_conversionCode (aligned : Aligned N v w) :
    Agree N Eq (conversionCode v) (conversionCode w) := by
  refine (agree_wholeNumber aligned).bind ?_
  rintro code _ rfl
  exact .ite (.throw _) (.ite (.throw _) (.pure rfl))

private theorem agree_writeConversion (aligned : Aligned N v w) :
    Agree N Eq (writeConversion v) (writeConversion w) := by
  unfold writeConversion
  rw [eq_of_shape plain?_shape aligned.shape]
  refine .ite ((agree_conversionCode aligned).bind ?_) (.pure rfl)
  rintro code _ rfl
  exact agree_writeCodes _

private theorem agree_keywordName (aligned : Aligned N v w) :
    Agree N Eq (keywordName v) (keywordName w) := by
  unfold keywordName
  rw [eq_of_shape isNull_shape aligned.shape]
  exact .ite (agree_write _) ((agree_writeValue aligned).andThen (agree_write _))

private theorem agree_appended {first first' second second' : Print (List Value)}
    (left : Agree N (List.Forall₂ (Aligned N)) first first')
    (right : Agree N (List.Forall₂ (Aligned N)) second second') :
    Agree N (List.Forall₂ (Aligned N)) (do return (← first) ++ (← second))
      (do return (← first') ++ (← second')) :=
  left.bind fun _ _ before => right.bind fun _ _ after => .pure (List.rel_append before after)

private theorem agree_concatenation {x y : Value} (first : Aligned N v w) (second : Aligned N x y) :
    Agree N (List.Forall₂ (Aligned N)) (concatenation v x) (concatenation w y) := by
  unfold concatenation
  rw [eq_of_shape typeName_shape first.shape, eq_of_shape typeName_shape second.shape]
  exact .ite (agree_appended (agree_elements first) (agree_elements second)) (.throw _)

private theorem isEmpty_eq {xs ys : List Value} (related : List.Forall₂ (Aligned N) xs ys) :
    xs.isEmpty = ys.isEmpty := by
  cases related <;> rfl

private theorem forall₂_zip {α β : Type} {R : α → α → Prop} {S : β → β → Prop} {as bs : List α}
    {xs ys : List β} (left : List.Forall₂ R as bs) (right : List.Forall₂ S xs ys) :
    List.Forall₂ (fun p q => R p.1 q.1 ∧ S p.2 q.2) (as.zip xs) (bs.zip ys) := by
  induction left generalizing xs ys with
  | nil => exact .nil
  | cons head _ ih =>
    cases right with
    | nil => exact .nil
    | cons head' rest => exact .cons ⟨head, head'⟩ (ih rest)

section

variable {visit visit' part part' : Value → Print Unit}
  (visits : ∀ x y, Aligned N x y → Agree N Eq (visit x) (visit' y))

include visits

private theorem agree_following (before : String) (aligned : Aligned N v w) :
    Agree N Eq (following visit before v) (following visit' before w) := by
  unfold following
  rw [eq_of_shape truthy_shape aligned.shape]
  exact .ite ((agree_write _).andThen (visits _ _ aligned)) (.pure rfl)

private theorem agree_continued (later : Bool) {xs ys : List Value}
    (related : List.Forall₂ (Aligned N) xs ys) :
    Agree N Eq (continued visit later xs) (continued visit' later ys) := by
  unfold continued
  rw [isEmpty_eq related]
  exact (agree_writeIf _ _).andThen (agree_commas visits related)

private theorem agree_chain {ops ops' operands operands' : List Value}
    (operators : List.Forall₂ (Aligned N) ops ops')
    (related : List.Forall₂ (Aligned N) operands operands') :
    Agree N Eq (chain visit ops operands) (chain visit' ops' operands') := by
  induction operators generalizing operands operands' with
  | nil => exact .pure rfl
  | cons op _ ih =>
    cases related with
    | nil => exact .pure rfl
    | cons operand rest =>
      refine (agree_operator _ op).bind ?_
      rintro text _ rfl
      exact (agree_write _).andThen ((visits _ _ operand).andThen (ih rest))

variable (corresponds : Corresponds N)

include corresponds

private theorem agree_parameter (aligned : Aligned N v w) :
    Agree N Eq (parameter visit v) (parameter visit' w) := by
  refine (agree_attr corresponds aligned (by simp)).bind fun _ _ name => ?_
  refine (agree_writeValue name).andThen ?_
  refine (agree_attr corresponds aligned (by simp)).bind fun _ _ hint => ?_
  exact agree_following visits _ hint

private theorem agree_positionalParameters (aligned : Aligned N v w) :
    Agree N Eq (positionalParameters visit v) (positionalParameters visit' w) := by
  refine (agree_attr corresponds aligned (by simp)).bind fun positional positional' leading => ?_
  refine (agree_attr corresponds aligned (by simp)).bind fun _ _ others => ?_
  refine (agree_concatenation leading others).bind fun all all' params => ?_
  refine (agree_attr corresponds aligned (by simp)).bind fun _ _ held => ?_
  refine (agree_listItems held).bind fun defaults defaults' given => ?_
  refine (agree_elements leading).bind fun before before' slash => ?_
  have padded : List.Forall₂ (Aligned N)
      (List.replicate (all.length - defaults.length) Value.null ++ defaults)
      (List.replicate (all'.length - defaults'.length) Value.null ++ defaults') := by
    rw [params.length_eq, given.length_eq]
    refine List.rel_append (List.forall₂_same.mpr ?_) given
    intro x member
    rw [List.eq_of_mem_replicate member]
    exact .plain ..
  refine Agree.andThen (.forM (Outcome.forall₂_zipIdx (forall₂_zip params padded) 1) ?_) ?_
  · rintro ⟨⟨param, default⟩, index⟩ ⟨⟨param', default'⟩, _⟩ ⟨⟨both, both'⟩, rfl⟩
    dsimp only
    rw [slash.length_eq]
    exact (agree_writeIf _ _).andThen ((visits _ _ both).andThen
      ((agree_following visits _ both').andThen (agree_writeIf _ _)))
  · rw [isEmpty_eq params]
    exact .pure rfl

private theorem agree_starParameter (any : Bool) (aligned : Aligned N v w) :
    Agree N Eq (starParameter visit any v) (starParameter visit' any w) := by
  refine (agree_attr corresponds aligned (by simp)).bind fun rest rest' starred => ?_
  refine (agree_attr corresponds aligned (by simp)).bind fun _ _ keywords => ?_
  rw [eq_of_shape truthy_shape starred.shape, eq_of_shape truthy_shape keywords.shape]
  refine .ite ((agree_writeIf _ _).andThen ((agree_write _).andThen ?_)) (.pure rfl)
  exact .ite ((agree_parameter visits corresponds starred).andThen (.pure rfl)) (.pure rfl)

private theorem agree_keywordParameters (aligned : Aligned N v w) :
    Agree N Eq (keywordParameters visit v) (keywordParameters visit' w) := by
  refine (agree_attr corresponds aligned (by simp)).bind fun _ _ keywords => ?_
  rw [eq_of_shape truthy_shape keywords.shape]
  refine .ite ?_ (.pure rfl)
  refine (agree_elements keywords).bind fun _ _ params => ?_
  refine (agree_attrElements corresponds aligned (by simp)).bind fun _ _ defaults => ?_
  refine .forM (forall₂_zip params defaults) ?_
  rintro ⟨param, default⟩ ⟨param', default'⟩ ⟨both, both'⟩
  exact (agree_write _).andThen ((visits _ _ both).andThen (agree_following visits _ both'))

private theorem agree_parameters (aligned : Aligned N v w) :
    Agree N Eq (parameters visit v) (parameters visit' w) := by
  refine (agree_positionalParameters visits corresponds aligned).bind ?_
  rintro some _ rfl
  refine (agree_starParameter visits corresponds some aligned).bind ?_
  rintro any _ rfl
  refine (agree_keywordParameters visits corresponds aligned).andThen ?_
  refine (agree_attr corresponds aligned (by simp)).bind fun others others' rest => ?_
  rw [eq_of_shape truthy_shape rest.shape]
  refine .ite ((agree_writeIf _ _).andThen ?_) (.pure rfl)
  refine (agree_attr corresponds rest (by simp)).bind fun _ _ name => ?_
  refine (agree_textOf name).bind ?_
  rintro text _ rfl
  refine (agree_write _).andThen ?_
  exact (agree_attr corresponds rest (by simp)).bind fun _ _ => agree_following visits _

private theorem agree_lambdaExpression (related : N v w) (loose : v.isLoose = true) :
    Agree N Eq (lambdaExpression visit v) (lambdaExpression visit' w) := by
  have aligned := corresponds.aligned related
  refine agree_atLevel corresponds _ related loose ((agree_write _).andThen ?_)
  refine (agree_attr corresponds aligned (by simp)).bind fun params params' given => ?_
  refine (agree_buffered (visits _ _ given)).bind ?_
  rintro pieces _ rfl
  refine (agree_writeIf _ _).andThen (Agree.andThen (.modify ?_) ((agree_write _).andThen ?_))
  · intro out out' outputs
    exact { outputs with pieces := congrArg (pieces.reverse ++ ·) outputs.pieces }
  · refine (agree_attr corresponds aligned (by simp)).bind fun _ _ body => ?_
    exact (agree_ask corresponds _ body).andThen (visits _ _ body)

private theorem agree_clause (aligned : Aligned N v w) :
    Agree N Eq (clause visit v) (clause visit' w) := by
  refine (agree_attr corresponds aligned (by simp)).bind fun _ _ mode => ?_
  rw [eq_of_shape truthy_shape mode.shape]
  refine (agree_write _).andThen ?_
  refine (agree_attr corresponds aligned (by simp)).bind fun _ _ target => ?_
  refine (agree_ask corresponds _ target).andThen ((visits _ _ target).andThen ?_)
  refine (agree_write _).andThen ?_
  refine (agree_attr corresponds aligned (by simp)).bind fun _ _ iter => ?_
  refine (agree_attrElements corresponds aligned (by simp)).bind fun _ _ conditions => ?_
  refine Agree.andThen (.forM (.cons iter conditions) fun _ _ => agree_ask corresponds _) ?_
  refine (visits _ _ iter).andThen (.forM conditions fun _ _ condition => ?_)
  exact (agree_write _).andThen (visits _ _ condition)

private theorem agree_clauses (aligned : Aligned N v w) :
    Agree N Eq (clauses visit v) (clauses visit' w) :=
  (agree_attrElements corresponds aligned (by simp)).bind fun _ _ generators =>
    .forM generators visits

private theorem agree_entry {key key' value value' : Value} (keys : Aligned N key key')
    (values : Aligned N value value') :
    Agree N Eq (entry visit key value) (entry visit' key' value') := by
  unfold entry
  rw [eq_of_shape isNull_shape keys.shape]
  refine .ite ((agree_write _).andThen ?_) ((visits _ _ keys).andThen ?_)
  · exact (agree_ask corresponds _ values).andThen (visits _ _ values)
  · exact (agree_write _).andThen (visits _ _ values)

private theorem agree_entries (later : Bool) {keys keys' values values' : List Value}
    (left : List.Forall₂ (Aligned N) keys keys') (right : List.Forall₂ (Aligned N) values values') :
    Agree N Eq (entries visit later keys values) (entries visit' later keys' values') := by
  induction left generalizing later values values' with
  | nil => exact .pure rfl
  | cons key _ ih =>
    cases right with
    | nil => exact .pure rfl
    | cons value rest =>
      exact (agree_writeIf _ _).andThen
        ((agree_entry visits corresponds key value).andThen (ih true rest))

private theorem agree_rising (separator : String) (level : Level) (later : Bool)
    {xs ys : List Value} (related : List.Forall₂ (Aligned N) xs ys) :
    Agree N Eq (rising visit separator level later xs)
      (rising visit' separator level later ys) := by
  induction related generalizing level later with
  | nil => exact .pure rfl
  | cons operand _ ih =>
    exact (agree_writeIf _ _).andThen ((agree_ask corresponds _ operand).andThen
      ((visits _ _ operand).andThen (ih level.next true)))

private theorem agree_keywordOperand (word : String) (aligned : Aligned N v w) :
    Agree N Eq (keywordOperand visit word v) (keywordOperand visit' word w) := by
  refine (agree_write _).andThen ?_
  refine (agree_attr corresponds aligned (by simp)).bind fun _ _ operand => ?_
  rw [eq_of_shape truthy_shape operand.shape]
  refine .ite ((agree_write _).andThen ?_) (.pure rfl)
  exact (agree_ask corresponds _ operand).andThen (visits _ _ operand)

private theorem agree_call (aligned : Aligned N v w) :
    Agree N Eq (call visit v) (call visit' w) := by
  refine (agree_attr corresponds aligned (by simp)).bind fun _ _ func => ?_
  refine (agree_ask corresponds _ func).andThen ((visits _ _ func).andThen ?_)
  refine agree_enclose _ _ ?_
  refine (agree_attrElements corresponds aligned (by simp)).bind fun _ _ args => ?_
  refine (agree_commas visits args).andThen ?_
  refine (agree_attrElements corresponds aligned (by simp)).bind fun _ _ keywords => ?_
  rw [isEmpty_eq args]
  exact agree_continued visits _ keywords

private theorem agree_subscript (aligned : Aligned N v w) :
    Agree N Eq (subscript visit v) (subscript visit' w) := by
  refine (agree_attr corresponds aligned (by simp)).bind fun _ _ value => ?_
  refine (agree_ask corresponds _ value).andThen ((visits _ _ value).andThen ?_)
  refine agree_enclose _ _ ?_
  refine (agree_attr corresponds aligned (by simp)).bind fun index index' inner => ?_
  rw [isKind, isKind, eq_of_shape kind?_shape inner.shape]
  refine .ite ?_ (visits _ _ inner)
  refine (agree_attr corresponds inner (by simp)).bind fun _ _ items => ?_
  rw [eq_of_shape truthy_shape items.shape]
  refine .ite ?_ (visits _ _ inner)
  exact (agree_elements items).bind fun _ _ => agree_tupleItems visits

private theorem agree_innerCodes (aligned : Aligned N v w) :
    Agree N Eq (innerCodes visit v) (innerCodes visit' w) := by
  refine Agree.get.bind fun outer outer' outside => ?_
  have fresh : OutputsAgree N { plainQuotes := true } { plainQuotes := true } :=
    ⟨rfl, rfl, rfl, fun _ _ => rfl⟩
  refine (Agree.set fresh).andThen ((agree_ask corresponds _ aligned).andThen ?_)
  refine (visits _ _ aligned).andThen (Agree.get.bind fun inner inner' inside => ?_)
  rw [inside.pieces]
  refine (agree_joinedCodes _).bind ?_
  rintro codes _ rfl
  exact (Agree.set outside).andThen (.pure rfl)

private theorem agree_tuple (related : N v w) (loose : v.isLoose = true) :
    Agree N Eq (tuple visit v) (tuple visit' w) := by
  refine (agree_attr corresponds (corresponds.aligned related) (by simp)).bind fun _ _ held => ?_
  refine (agree_elements held).bind fun _ _ items => ?_
  refine (agree_asked corresponds related loose).bind ?_
  rintro required _ rfl
  rw [isEmpty_eq items]
  exact agree_parenthesizeIf _ (agree_tupleItems visits items)

private theorem agree_slice (aligned : Aligned N v w) :
    Agree N Eq (slice visit v) (slice visit' w) := by
  refine (agree_attr corresponds aligned (by simp)).bind fun _ _ lower => ?_
  refine (agree_following visits _ lower).andThen ((agree_write _).andThen ?_)
  refine (agree_attr corresponds aligned (by simp)).bind fun _ _ upper => ?_
  refine (agree_following visits _ upper).andThen ?_
  exact (agree_attr corresponds aligned (by simp)).bind fun _ _ => agree_following visits _

omit visits in
private theorem needsBlank_eq (aligned : Aligned N v w) : needsBlank v = needsBlank w := by
  rw [needsBlank, needsBlank, isKind, isKind, eq_of_shape kind?_shape aligned.shape,
    eq_of_shape plain?_shape (corresponds.attr aligned (by simp))]

variable (parts : ∀ x y, Aligned N x y → Agree N Eq (part x) (part' y))

include parts

private theorem agree_replacement (aligned : Aligned N v w) :
    Agree N Eq (replacement visit part v) (replacement visit' part' w) := by
  refine agree_enclose _ _ ?_
  refine (agree_attr corresponds aligned (by simp)).bind fun _ _ inner => ?_
  refine (agree_innerCodes visits corresponds inner).bind ?_
  rintro codes _ rfl
  refine (agree_require _).andThen ((agree_writeIf _ _).andThen ((agree_writeCodes _).andThen ?_))
  refine (agree_attr corresponds aligned (by simp)).bind fun _ _ conversion => ?_
  refine (agree_writeConversion conversion).andThen ?_
  refine (agree_attr corresponds aligned (by simp)).bind fun _ _ format => ?_
  rw [eq_of_shape truthy_shape format.shape]
  exact .ite ((agree_write _).andThen (parts _ _ format)) (.pure rfl)

private theorem agree_formattedPart (aligned : Aligned N v w) :
    Agree N Eq (formattedPart visit part v) (formattedPart visit' part' w) := by
  unfold formattedPart
  rw [eq_of_shape kind?_shape aligned.shape]
  split
  · exact (agree_attrElements corresponds aligned (by simp)).bind fun _ _ values =>
      .forM values parts
  · refine (agree_attr corresponds aligned (by simp)).bind fun _ _ value => ?_
    rw [eq_of_shape codes?_shape value.shape]
    split
    · exact agree_writeCodes _
    · exact .throw _
  · exact agree_replacement visits corresponds parts aligned
  · exact .throw _

omit visits in
private theorem agree_formatted (aligned : Aligned N v w) :
    Agree N Eq (formatted part v) (formatted part' w) := by
  refine (agree_write _).andThen (Agree.get.bind fun out out' outputs => ?_)
  rw [outputs.plainQuotes]
  refine .ite ?_ ?_
  · refine (agree_buffered (parts _ _ aligned)).bind ?_
    rintro pieces _ rfl
    refine (agree_joinedCodes _).bind ?_
    rintro codes _ rfl
    exact agree_write _
  · refine (agree_attrElements corresponds aligned (by simp)).bind fun _ _ values => ?_
    refine Agree.bind (A := Eq) (.mapM values fun x y value => ?_) ?_
    · refine (agree_buffered (parts _ _ value)).bind ?_
      rintro pieces _ rfl
      refine (agree_joinedCodes _).bind ?_
      rintro codes _ rfl
      rw [isKind, isKind, eq_of_shape kind?_shape value.shape]
      exact .pure rfl
    · rintro texts _ rfl
      unfold writeFormatted
      split
      · exact agree_write _
      · exact agree_write _

/-- The steps of corresponding nodes agree, whatever kind of expression they are. -/
theorem agree_expression (related : N v w) {kind : Kind} (isKind : v.kind? = some kind) :
    Option.Rel (Agree N Eq) (expression? visit part v kind) (expression? visit' part' w kind) := by
  have aligned := corresponds.aligned related
  have loose (isLoose : kind.isLoose = true) : v.isLoose = true := by
    rw [Value.isLoose, isKind]
    exact isLoose
  cases kind with
  | name =>
    exact .some ((agree_attr corresponds aligned (by simp)).bind fun _ _ => agree_writeValue)
  | constant =>
    refine .some ((agree_attr corresponds aligned (by simp)).bind fun _ _ value => ?_)
    rw [eq_of_shape plain?_shape value.shape,
      eq_of_shape text?_shape (corresponds.attr aligned (by simp))]
    exact .ite (agree_write _) ((agree_writeIf _ _).andThen (agree_writeConstant value))
  | attributeRef =>
    refine .some ((agree_attr corresponds aligned (by simp)).bind fun _ _ value => ?_)
    refine (agree_ask corresponds _ value).andThen ((visits _ _ value).andThen ?_)
    rw [needsBlank_eq corresponds value]
    refine (agree_writeIf _ _).andThen ((agree_write _).andThen ?_)
    exact (agree_attr corresponds aligned (by simp)).bind fun _ _ => agree_writeValue
  | subscript => exact .some (agree_subscript visits corresponds aligned)
  | call => exact .some (agree_call visits corresponds aligned)
  | keyword =>
    refine .some ((agree_attr corresponds aligned (by simp)).bind fun _ _ name => ?_)
    refine (agree_keywordName name).andThen ?_
    exact (agree_attr corresponds aligned (by simp)).bind visits
  | starred =>
    refine .some ((agree_write _).andThen ?_)
    refine (agree_attr corresponds aligned (by simp)).bind fun _ _ value => ?_
    exact (agree_ask corresponds _ value).andThen (visits _ _ value)
  | list =>
    refine .some (agree_enclose _ _ ?_)
    exact (agree_attrElements corresponds aligned (by simp)).bind fun _ _ => agree_commas visits
  | tuple => exact .some (agree_tuple visits corresponds related (loose rfl))
  | set =>
    refine .some ((agree_attr corresponds aligned (by simp)).bind fun _ _ items => ?_)
    rw [eq_of_shape truthy_shape items.shape]
    refine .ite (agree_enclose _ _ ?_) (agree_write _)
    exact (agree_elements items).bind fun _ _ => agree_commas visits
  | dict =>
    refine .some (agree_enclose _ _ ?_)
    refine (agree_attr corresponds aligned (by simp)).bind fun _ _ keys => ?_
    refine (agree_attr corresponds aligned (by simp)).bind fun _ _ values => ?_
    refine (agree_elements keys).bind fun _ _ keys => ?_
    exact (agree_elements values).bind fun _ _ => agree_entries visits corresponds _ keys
  | binOp =>
    refine .some ((agree_attr corresponds aligned (by simp)).bind fun _ _ op => ?_)
    refine (agree_operator _ op).bind ?_
    rintro op _ rfl
    refine agree_atLevel corresponds _ related (loose rfl) ?_
    refine (agree_attr corresponds aligned (by simp)).bind fun _ _ left => ?_
    refine (agree_ask corresponds _ left).andThen ((visits _ _ left).andThen ?_)
    refine (agree_write _).andThen ?_
    refine (agree_attr corresponds aligned (by simp)).bind fun _ _ right => ?_
    exact (agree_ask corresponds _ right).andThen (visits _ _ right)
  | unaryOp =>
    refine .some ((agree_attr corresponds aligned (by simp)).bind fun _ _ op => ?_)
    refine (agree_operator _ op).bind ?_
    rintro op _ rfl
    refine agree_atLevel corresponds _ related (loose rfl) ((agree_write _).andThen ?_)
    refine (agree_attr corresponds aligned (by simp)).bind fun _ _ operand => ?_
    exact (agree_ask corresponds _ operand).andThen (visits _ _ operand)
  | boolOp =>
    refine .some ((agree_attr corresponds aligned (by simp)).bind fun _ _ op => ?_)
    refine (agree_operator _ op).bind ?_
    rintro op _ rfl
    refine agree_atLevel corresponds _ related (loose rfl) ?_
    exact (agree_attrElements corresponds aligned (by simp)).bind fun _ _ =>
      agree_rising visits corresponds _ _ _
  | compare =>
    refine .some (agree_atLevel corresponds _ related (loose rfl) ?_)
    refine (agree_attr corresponds aligned (by simp)).bind fun _ _ left => ?_
    refine (agree_attrElements corresponds aligned (by simp)).bind fun _ _ operands => ?_
    refine Agree.andThen (.forM (.cons left operands) fun _ _ => agree_ask corresponds _) ?_
    refine (visits _ _ left).andThen ?_
    exact (agree_attrElements corresponds aligned (by simp)).bind fun _ _ ops =>
      agree_chain visits ops operands
  | ifExp =>
    refine .some (agree_atLevel corresponds _ related (loose rfl) ?_)
    refine (agree_attr corresponds aligned (by simp)).bind fun _ _ body => ?_
    refine (agree_attr corresponds aligned (by simp)).bind fun _ _ test => ?_
    refine (agree_ask corresponds _ body).andThen ((agree_ask corresponds _ test).andThen ?_)
    refine (visits _ _ body).andThen ((agree_write _).andThen ?_)
    refine (visits _ _ test).andThen ((agree_write _).andThen ?_)
    refine (agree_attr corresponds aligned (by simp)).bind fun _ _ orelse => ?_
    exact (agree_ask corresponds _ orelse).andThen (visits _ _ orelse)
  | lambda => exact .some (agree_lambdaExpression visits corresponds related (loose rfl))
  | namedExpr =>
    refine .some (agree_atLevel corresponds _ related (loose rfl) ?_)
    refine (agree_attr corresponds aligned (by simp)).bind fun _ _ target => ?_
    refine (agree_attr corresponds aligned (by simp)).bind fun _ _ value => ?_
    refine (agree_ask corresponds _ target).andThen ((agree_ask corresponds _ value).andThen ?_)
    exact (visits _ _ target).andThen ((agree_write _).andThen (visits _ _ value))
  | await =>
    exact .some (agree_atLevel corresponds _ related (loose rfl)
      (agree_keywordOperand visits corresponds _ aligned))
  | yield =>
    exact .some (agree_atLevel corresponds _ related (loose rfl)
      (agree_keywordOperand visits corresponds _ aligned))
  | yieldFrom =>
    refine .some (agree_atLevel corresponds _ related (loose rfl) ((agree_write _).andThen ?_))
    refine (agree_attr corresponds aligned (by simp)).bind fun _ _ value => ?_
    rw [eq_of_shape truthy_shape value.shape]
    refine (agree_require _).andThen ?_
    exact (agree_ask corresponds _ value).andThen (visits _ _ value)
  | slice => exact .some (agree_slice visits corresponds aligned)
  | listComp =>
    refine .some (agree_enclose _ _ ?_)
    refine (agree_attr corresponds aligned (by simp)).bind fun _ _ elt => ?_
    exact (visits _ _ elt).andThen (agree_clauses visits corresponds aligned)
  | setComp =>
    refine .some (agree_enclose _ _ ?_)
    refine (agree_attr corresponds aligned (by simp)).bind fun _ _ elt => ?_
    exact (visits _ _ elt).andThen (agree_clauses visits corresponds aligned)
  | generatorExp =>
    refine .some (agree_enclose _ _ ?_)
    refine (agree_attr corresponds aligned (by simp)).bind fun _ _ elt => ?_
    exact (visits _ _ elt).andThen (agree_clauses visits corresponds aligned)
  | dictComp =>
    refine .some (agree_enclose _ _ ?_)
    refine (agree_attr corresponds aligned (by simp)).bind fun _ _ key => ?_
    refine (visits _ _ key).andThen ((agree_write _).andThen ?_)
    refine (agree_attr corresponds aligned (by simp)).bind fun _ _ value => ?_
    exact (visits _ _ value).andThen (agree_clauses visits corresponds aligned)
  | comprehension => exact .some (agree_clause visits corresponds aligned)
  | joinedStr => exact .some (agree_formatted corresponds parts aligned)
  | formattedValue => exact .some (agree_replacement visits corresponds parts aligned)
  | arguments => exact .some (agree_parameters visits corresponds aligned)
  | arg => exact .some (agree_parameter visits corresponds aligned)
  | _ => exact .none

end

/-- What expressions are made of has no step among the patterns and the statements. -/
theorem other_steps_eq_none {kind : Kind} (inside : kind.inExpressions = true)
    (visit : Value → Print Unit) (bound : Nat) (v : Value) :
    (pattern? visit v kind).or (statement? visit bound v kind) = none := by
  cases kind <;> first | rfl | cases inside

private theorem agree_printNode (corresponds : Corresponds N) (bound : Nat)
    {visit visit' part part' : Value → Print Unit}
    (visits : ∀ x y, Aligned N x y → Agree N Eq (visit x) (visit' y))
    (parts : ∀ x y, Aligned N x y → Agree N Eq (part x) (part' y)) (related : N v w) {kind : Kind}
    (isKind : v.kind? = some kind) :
    Agree N Eq (printNode bound visit part v kind) (printNode bound visit' part' w kind) := by
  have inside : kind.inExpressions = true := by
    have belongs := (corresponds.belongs related).1
    cases v with
    | node =>
      cases isKind
      simp only [belongsInExpressions, Bool.and_eq_true] at belongs
      exact belongs.1.1
    | _ => cases belongs
  unfold printNode
  rw [other_steps_eq_none inside, other_steps_eq_none inside, Option.or_none, Option.or_none]
  have steps := agree_expression visits corresponds parts related isKind
  generalize expression? visit part v kind = step, expression? visit' part' w kind = step' at steps
  cases steps with
  | some agree => exact agree
  | none =>
    exact .forM (corresponds.children related) fun _ _ child =>
      agree_afresh (visits _ _ (corresponds.aligned child))

/-- Aligned values print alike, as a whole and as parts of formatted strings. -/
theorem agree_print (corresponds : Corresponds N) (bound : Nat) (role : Role)
    (aligned : Aligned N v w) : Agree N Eq (print bound role v) (print bound role w) := by
  induction bound generalizing role v w with
  | zero => exact .throw _
  | succ bound ih =>
    have visits (x y : Value) := ih (v := x) (w := y) .whole
    have parts (x y : Value) := ih (v := x) (w := y) .part
    cases role with
    | part => exact agree_formattedPart visits corresponds parts aligned
    | whole =>
      obtain ⟨_, _, _, rfl, rfl⟩ | ⟨_, _, _, _, rfl, rfl, items⟩ |
        ⟨_, _, _, _, _, _, _, rfl, rfl, related⟩ := aligned.cases
      · exact .throw _
      · exact .forM items visits
      · exact agree_printNode corresponds bound visits parts related rfl

private theorem EndAlike.finish_eq {ended ended' : Except Unprintable (String × Output)}
    (ends : EndAlike N Eq ended ended') : finish ended = finish ended' := by
  cases ends with
  | fault why => rfl
  | done same => exact congrArg Except.ok same

private theorem agree_printAll (corresponds : Corresponds N) (aligned : Aligned N v w) :
    Agree N Eq (printAll v) (printAll w) := by
  unfold printAll
  rw [eq_of_shape height_shape aligned.shape]
  refine (agree_print corresponds _ _ aligned).andThen (Agree.get.bind ?_)
  intro out out' outputs
  rw [outputs.pieces]
  exact agree_joined _

/-- Corresponding nodes have the same source text. -/
theorem source_eq (corresponds : Corresponds N) (related : N v w) : v.source = w.source := by
  have empty : OutputsAgree N {} {} := ⟨rfl, rfl, rfl, fun _ _ => rfl⟩
  exact (agree_printAll corresponds (corresponds.aligned related) {} {} empty).finish_eq

end CallSites.Tree.Printer
