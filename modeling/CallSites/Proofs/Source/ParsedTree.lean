import CallSites.Proofs.Regularity
import CallSites.Source.Parse

/-! # The trees of parsed texts

The tree of an expression, a pattern or a statement is regular, whatever it consists of. So the tree
of every text that can be parsed is well formed, its calls have expressions as arguments and keyword
nodes as keywords, and its marks hold no nodes: what is said of such trees holds of parsed texts.
-/

namespace CallSites.Source

open CallSites.Tree (Kind Value)
open CallSites.Tree.Value (regular regularItems regularSlots_map_some)

/-- The marks of a span hold no node, and it does not end above its start. -/
theorem regular_marks (span : Span) :
    span.marks.all (fun mark => !mark.2.holdsNode) = true ∧ Value.areSpan span.marks = true := by
  refine ⟨rfl, ?_⟩
  simp only [Span.marks, Value.int, Value.areSpan, Span.endLine, Pos.line, Bool.and_eq_true,
    decide_eq_true_eq]
  omega

private theorem regular_placed {kind : Kind} {fields : List Value} (span : Span)
    (shape : fields.length = kind.fields.length) (other : kind ≠ .call ∧ kind ≠ .name)
    (below : regularItems fields = true) : (placed kind span fields).regular = true := by
  obtain ⟨bare, inOrder⟩ := regular_marks span
  rw [placed, regular, regularSlots_map_some, below, Value.isRegular, List.length_map, shape, bare,
    inOrder]
  simp [other.1, other.2]

private theorem regular_unplaced {kind : Kind} {fields : List Value}
    (shape : fields.length = kind.fields.length) (other : kind ≠ .call ∧ kind ≠ .name)
    (below : regularItems fields = true) : (unplaced kind fields).regular = true := by
  rw [unplaced, regular, regularSlots_map_some, below, Value.isRegular, List.length_map, shape]
  simp [other.1, other.2]

@[simp] theorem regular_usage (usage : Usage) : usage.tree.regular = true := by
  cases usage <;> rfl

@[simp] theorem regular_boolOp (op : BoolOp) : (leaf op.kind).regular = true := by
  cases op <;> rfl

@[simp] theorem regular_binaryOp (op : BinaryOp) : (leaf op.kind).regular = true := by
  cases op <;> rfl

@[simp] theorem regular_unaryOp (op : UnaryOp) : (leaf op.kind).regular = true := by
  cases op <;> rfl

@[simp] theorem regular_list (tag : Nat) (items : List Value) :
    (Value.list tag items).regular = regularItems items := by rw [regular]

@[simp] theorem regular_int (n : Int) : (Value.int n).regular = true := rfl

@[simp] theorem regular_str (s : String) : (Value.str s).regular = true := rfl

@[simp] theorem regular_null : Value.null.regular = true := rfl

@[simp] theorem regular_flag (b : Bool) : (flag b).regular = true := rfl

@[simp] theorem regular_openText (text : Option String) : (openText text).regular = true := by
  cases text <;> rfl

@[simp] theorem regular_conversionCode (conversion : Option Char) :
    (conversionCode conversion).regular = true := by
  cases conversion <;> rfl

@[simp] theorem regular_literal (literal : Literal) :
    literal.value.regular = true ∧ literal.mark.regular = true := by
  refine ⟨rfl, ?_⟩
  unfold Literal.mark
  split <;> rfl

private theorem regularItems_map {α : Type} {tree : α → Value}
    (each : ∀ item, (tree item).regular = true) (items : List α) :
    regularItems (items.map tree) = true := by
  rw [Value.regularItems_iff]
  intro v member
  obtain ⟨item, -, rfl⟩ := List.mem_map.mp member
  exact each item

@[simp] theorem regularItems_texts (texts : List String) :
    regularItems (texts.map Value.str) = true :=
  regularItems_map regular_str texts

@[simp] theorem regularItems_compareOps (ops : List CompareOp) :
    regularItems (ops.map fun op => leaf op.kind) = true :=
  regularItems_map (fun op => by cases op <;> rfl) ops

private theorem isExpression_tree (usage : Usage) (expr : Expr) :
    (expr.tree usage).isExpression = true := by
  cases expr <;> rfl

private theorem all_exprTrees (usage : Usage) (exprs : List Expr) :
    (exprTrees usage exprs).all Value.isExpression = true := by
  induction exprs with
  | nil => rfl
  | cons expr rest ih => rw [exprTrees, List.all_cons, isExpression_tree, ih, Bool.and_self]

private theorem all_keywordTrees (keywords : List Keyword) :
    (keywordTrees keywords).all (Value.isKind .keyword) = true := by
  induction keywords with
  | nil => rfl
  | cons keyword rest ih =>
    have isKeyword : keyword.tree.isKind .keyword = true := by cases keyword; rfl
    rw [keywordTrees, List.all_cons, isKeyword, ih, Bool.and_self]

/-- A call is regular with its parts, for these are expressions and keywords. -/
theorem regular_call (span : Span) {func : Expr} {args : List Expr} {keywords : List Keyword}
    (callee : (func.tree .load).regular = true)
    (arguments : regularItems (exprTrees .load args) = true)
    (named : regularItems (keywordTrees keywords) = true) (usage : Usage) :
    ((Expr.call span func args keywords).tree usage).regular = true := by
  obtain ⟨bare, inOrder⟩ := regular_marks span
  have parts : Value.areCallSlots [some (func.tree .load), some (.list 0 (exprTrees .load args)),
      some (.list 0 (keywordTrees keywords))] = true := by
    rw [Value.areCallSlots, all_exprTrees, all_keywordTrees, Bool.and_self]
  rw [Expr.tree, placed, regular, regularSlots_map_some, Value.isRegular, bare, inOrder]
  simp only [List.map_cons, List.map_nil, parts, regularItems, regular, callee, arguments, named]
  rfl

private theorem Identifier.name_isEmpty (id : Identifier) : id.name.isEmpty = false := by
  have free := id.free
  rw [isFree, Bool.and_eq_true, Bool.not_eq_eq_eq_not] at free
  have given : id.text ≠ "" := by simpa using free.1
  simpa [name] using Text.normalForm_ne_empty given

/-- A name is regular, for identifiers are not empty. -/
theorem regular_name (span : Span) (id : Identifier) (usage : Usage) :
    ((Expr.name span id).tree usage).regular = true := by
  obtain ⟨bare, inOrder⟩ := regular_marks span
  have given : Value.areNameSlots [some (.str id.name), some usage.tree] = true := by
    rw [Value.str, Value.areNameSlots, id.name_isEmpty, Bool.not_false]
  rw [Expr.tree, placed, regular, regularSlots_map_some, Value.isRegular, bare, inOrder]
  simp only [List.map_cons, List.map_nil, given, regularItems, regular_str, regular_usage]
  rfl

mutual

private theorem regular_expr (usage : Usage) (expr : Expr) : (expr.tree usage).regular = true := by
  cases expr with
  | boolean span op values =>
    refine regular_placed span rfl ⟨nofun, nofun⟩ ?_
    simp [regularItems, regularItems_exprTrees .load values]
  | named span target value =>
    refine regular_placed span rfl ⟨nofun, nofun⟩ ?_
    simp [regularItems, regular_expr .store target, regular_expr .load value]
  | binary span left op right =>
    refine regular_placed span rfl ⟨nofun, nofun⟩ ?_
    simp [regularItems, regular_expr .load left, regular_expr .load right]
  | unary span op operand =>
    refine regular_placed span rfl ⟨nofun, nofun⟩ ?_
    simp [regularItems, regular_expr .load operand]
  | lambda span params body =>
    refine regular_placed span rfl ⟨nofun, nofun⟩ ?_
    simp [regularItems, regular_params params, regular_expr .load body]
  | conditional span test body orelse =>
    refine regular_placed span rfl ⟨nofun, nofun⟩ ?_
    simp [regularItems, regular_expr .load test, regular_expr .load body, regular_expr .load orelse]
  | dict span keys values =>
    refine regular_placed span rfl ⟨nofun, nofun⟩ ?_
    simp [regularItems, regularItems_openTrees keys, regularItems_exprTrees .load values]
  | set span elts =>
    refine regular_placed span rfl ⟨nofun, nofun⟩ ?_
    simp [regularItems, regularItems_exprTrees .load elts]
  | listComp span elt clauses =>
    refine regular_placed span rfl ⟨nofun, nofun⟩ ?_
    simp [regularItems, regular_expr .load elt, regularItems_clauseTrees clauses]
  | setComp span elt clauses =>
    refine regular_placed span rfl ⟨nofun, nofun⟩ ?_
    simp [regularItems, regular_expr .load elt, regularItems_clauseTrees clauses]
  | dictComp span key value clauses =>
    refine regular_placed span rfl ⟨nofun, nofun⟩ ?_
    simp [regularItems, regular_expr .load key, regular_expr .load value,
      regularItems_clauseTrees clauses]
  | generator span elt clauses =>
    refine regular_placed span rfl ⟨nofun, nofun⟩ ?_
    simp [regularItems, regular_expr .load elt, regularItems_clauseTrees clauses]
  | await span value =>
    refine regular_placed span rfl ⟨nofun, nofun⟩ ?_
    simp [regularItems, regular_expr .load value]
  | yield span value =>
    refine regular_placed span rfl ⟨nofun, nofun⟩ ?_
    simp [regularItems, regular_openTree value]
  | yieldFrom span value =>
    refine regular_placed span rfl ⟨nofun, nofun⟩ ?_
    simp [regularItems, regular_expr .load value]
  | compare span left ops comparators =>
    refine regular_placed span rfl ⟨nofun, nofun⟩ ?_
    simp [regularItems, regular_expr .load left, regularItems_exprTrees .load comparators]
  | call span func args keywords =>
    exact regular_call span (regular_expr .load func) (regularItems_exprTrees .load args)
      (regularItems_keywordTrees keywords) usage
  | constant span literal =>
    refine regular_placed span rfl ⟨nofun, nofun⟩ ?_
    simp [regularItems]
  | member span value attr =>
    refine regular_placed span rfl ⟨nofun, nofun⟩ ?_
    simp [regularItems, regular_expr .load value]
  | subscript span value index =>
    refine regular_placed span rfl ⟨nofun, nofun⟩ ?_
    simp [regularItems, regular_expr .load value, regular_expr .load index]
  | starred span value =>
    refine regular_placed span rfl ⟨nofun, nofun⟩ ?_
    simp [regularItems, regular_expr usage value]
  | joined span parts =>
    refine regular_placed span rfl ⟨nofun, nofun⟩ ?_
    simp [regularItems, regularItems_exprTrees .load parts]
  | replacement span value conversion format =>
    refine regular_placed span rfl ⟨nofun, nofun⟩ ?_
    simp [regularItems, regular_expr .load value, regular_openTree format]
  | name span id => exact regular_name span id usage
  | list span elts =>
    refine regular_placed span rfl ⟨nofun, nofun⟩ ?_
    simp [regularItems, regularItems_exprTrees usage elts]
  | tuple span elts =>
    refine regular_placed span rfl ⟨nofun, nofun⟩ ?_
    simp [regularItems, regularItems_exprTrees usage elts]
  | slice span lower upper step =>
    refine regular_placed span rfl ⟨nofun, nofun⟩ ?_
    simp [regularItems, regular_openTree lower, regular_openTree upper, regular_openTree step]

private theorem regularItems_exprTrees (usage : Usage) (exprs : List Expr) :
    regularItems (exprTrees usage exprs) = true := by
  cases exprs with
  | nil => rfl
  | cons expr rest =>
    rw [exprTrees, regularItems, regular_expr usage expr, regularItems_exprTrees usage rest,
      Bool.and_self]

private theorem regular_openTree (expr : Option Expr) : (openTree expr).regular = true := by
  cases expr with
  | none => rfl
  | some expr => exact regular_expr .load expr

private theorem regularItems_openTrees (exprs : List (Option Expr)) :
    regularItems (openTrees exprs) = true := by
  cases exprs with
  | nil => rfl
  | cons expr rest =>
    cases expr with
    | none => exact regularItems_openTrees rest
    | some expr =>
      rw [openTrees, regularItems, regular_expr .load expr, regularItems_openTrees rest,
        Bool.and_self]

private theorem regular_clause (clause : Clause) : clause.tree.regular = true := by
  cases clause with
  | mk target iter conditions isAsync =>
    refine regular_unplaced rfl ⟨nofun, nofun⟩ ?_
    simp [regularItems, regular_expr .store target, regular_expr .load iter,
      regularItems_exprTrees .load conditions]

private theorem regularItems_clauseTrees (clauses : List Clause) :
    regularItems (clauseTrees clauses) = true := by
  cases clauses with
  | nil => rfl
  | cons clause rest =>
    rw [clauseTrees, regularItems, regular_clause clause, regularItems_clauseTrees rest,
      Bool.and_self]

private theorem regular_keyword (keyword : Keyword) : keyword.tree.regular = true := by
  cases keyword with
  | mk span name value =>
    refine regular_placed span rfl ⟨nofun, nofun⟩ ?_
    simp [regularItems, regular_expr .load value]

private theorem regularItems_keywordTrees (keywords : List Keyword) :
    regularItems (keywordTrees keywords) = true := by
  cases keywords with
  | nil => rfl
  | cons keyword rest =>
    rw [keywordTrees, regularItems, regular_keyword keyword, regularItems_keywordTrees rest,
      Bool.and_self]

private theorem regular_param (param : Param) : param.tree.regular = true := by
  cases param with
  | mk span name hint =>
    refine regular_placed span rfl ⟨nofun, nofun⟩ ?_
    simp [regularItems, regular_openTree hint]

private theorem regularItems_paramTrees (params : List Param) :
    regularItems (paramTrees params) = true := by
  cases params with
  | nil => rfl
  | cons param rest =>
    rw [paramTrees, regularItems, regular_param param, regularItems_paramTrees rest,
      Bool.and_self]

private theorem regular_openParam (param : Option Param) : (openParam param).regular = true := by
  cases param with
  | none => rfl
  | some param => exact regular_param param

private theorem regular_params (params : Params) : params.tree.regular = true := by
  cases params with
  | mk positional args rest keywordOnly keywordDefaults others defaults =>
    refine regular_unplaced rfl ⟨nofun, nofun⟩ ?_
    simp [regularItems, regularItems_paramTrees positional, regularItems_paramTrees args,
      regular_openParam rest, regularItems_paramTrees keywordOnly,
      regularItems_openTrees keywordDefaults, regular_openParam others,
      regularItems_exprTrees .load defaults]

end

mutual

private theorem regular_pattern (pattern : Pattern) : pattern.tree.regular = true := by
  cases pattern with
  | value span value =>
    refine regular_placed span rfl ⟨nofun, nofun⟩ ?_
    simp [regularItems, regular_expr .load value]
  | singleton span literal =>
    refine regular_placed span rfl ⟨nofun, nofun⟩ ?_
    simp [regularItems]
  | sequence span patterns =>
    refine regular_placed span rfl ⟨nofun, nofun⟩ ?_
    simp [regularItems, regularItems_patternTrees patterns]
  | mapping span keys patterns rest =>
    refine regular_placed span rfl ⟨nofun, nofun⟩ ?_
    simp [regularItems, regularItems_exprTrees .load keys, regularItems_patternTrees patterns]
  | instance_ span cls patterns attrs attrPatterns =>
    refine regular_placed span rfl ⟨nofun, nofun⟩ ?_
    simp [regularItems, regular_expr .load cls, regularItems_patternTrees patterns,
      regularItems_patternTrees attrPatterns]
  | star span name =>
    refine regular_placed span rfl ⟨nofun, nofun⟩ ?_
    simp [regularItems]
  | capture span pattern name =>
    refine regular_placed span rfl ⟨nofun, nofun⟩ ?_
    simp [regularItems, regular_openPattern pattern]
  | either span patterns =>
    refine regular_placed span rfl ⟨nofun, nofun⟩ ?_
    simp [regularItems, regularItems_patternTrees patterns]

private theorem regularItems_patternTrees (patterns : List Pattern) :
    regularItems (patternTrees patterns) = true := by
  cases patterns with
  | nil => rfl
  | cons pattern rest =>
    rw [patternTrees, regularItems, regular_pattern pattern, regularItems_patternTrees rest,
      Bool.and_self]

private theorem regular_openPattern (pattern : Option Pattern) :
    (openPattern pattern).regular = true := by
  cases pattern with
  | none => rfl
  | some pattern => exact regular_pattern pattern

end

@[simp] theorem regularItems_aliases (names : List Alias) :
    regularItems (names.map Alias.tree) = true := by
  refine regularItems_map (fun imported => ?_) names
  refine regular_placed imported.span rfl ⟨nofun, nofun⟩ ?_
  simp [regularItems]

@[simp] theorem regularItems_withItems (items : List WithItem) :
    regularItems (items.map WithItem.tree) = true := by
  refine regularItems_map (fun item => ?_) items
  refine regular_unplaced rfl ⟨nofun, nofun⟩ ?_
  cases target : item.target with
  | none => simp [regularItems, regular_expr .load item.manager]
  | some expr => simp [regularItems, regular_expr .load item.manager, regular_expr .store expr]

mutual

private theorem regular_stmt (stmt : Stmt) : stmt.tree.regular = true := by
  cases stmt with
  | functionDef span isAsync name params body decorators returns =>
    cases isAsync
    all_goals
      refine regular_placed span rfl ⟨nofun, nofun⟩ ?_
      simp [regularItems, regular_params params, regularItems_stmtTrees body,
        regularItems_exprTrees .load decorators, regular_openTree returns]
  | classDef span name bases keywords body decorators =>
    refine regular_placed span rfl ⟨nofun, nofun⟩ ?_
    simp [regularItems, regularItems_exprTrees .load bases, regularItems_keywordTrees keywords,
      regularItems_stmtTrees body, regularItems_exprTrees .load decorators]
  | returning span value =>
    refine regular_placed span rfl ⟨nofun, nofun⟩ ?_
    simp [regularItems, regular_openTree value]
  | delete span targets =>
    refine regular_placed span rfl ⟨nofun, nofun⟩ ?_
    simp [regularItems, regularItems_exprTrees .del targets]
  | assign span targets value =>
    refine regular_placed span rfl ⟨nofun, nofun⟩ ?_
    simp [regularItems, regularItems_exprTrees .store targets, regular_expr .load value]
  | augAssign span target op value =>
    refine regular_placed span rfl ⟨nofun, nofun⟩ ?_
    simp [regularItems, regular_expr .store target, regular_expr .load value]
  | annAssign span target hint value simple =>
    refine regular_placed span rfl ⟨nofun, nofun⟩ ?_
    simp [regularItems, regular_expr .store target, regular_expr .load hint,
      regular_openTree value]
  | forLoop span isAsync target iter body orelse =>
    cases isAsync
    all_goals
      refine regular_placed span rfl ⟨nofun, nofun⟩ ?_
      simp [regularItems, regular_expr .store target, regular_expr .load iter,
        regularItems_stmtTrees body, regularItems_stmtTrees orelse]
  | whileLoop span test body orelse =>
    refine regular_placed span rfl ⟨nofun, nofun⟩ ?_
    simp [regularItems, regular_expr .load test, regularItems_stmtTrees body,
      regularItems_stmtTrees orelse]
  | branch span test body orelse =>
    refine regular_placed span rfl ⟨nofun, nofun⟩ ?_
    simp [regularItems, regular_expr .load test, regularItems_stmtTrees body,
      regularItems_stmtTrees orelse]
  | withBlock span isAsync items body =>
    cases isAsync
    all_goals
      refine regular_placed span rfl ⟨nofun, nofun⟩ ?_
      simp [regularItems, regularItems_stmtTrees body]
  | matching span subject cases =>
    refine regular_placed span rfl ⟨nofun, nofun⟩ ?_
    simp [regularItems, regular_expr .load subject, regularItems_caseTrees cases]
  | raising span exc cause =>
    refine regular_placed span rfl ⟨nofun, nofun⟩ ?_
    simp [regularItems, regular_openTree exc, regular_openTree cause]
  | tryBlock span isGroup body handlers orelse finalbody =>
    cases isGroup
    all_goals
      refine regular_placed span rfl ⟨nofun, nofun⟩ ?_
      simp [regularItems, regularItems_stmtTrees body, regularItems_handlerTrees handlers,
        regularItems_stmtTrees orelse, regularItems_stmtTrees finalbody]
  | assertion span test msg =>
    refine regular_placed span rfl ⟨nofun, nofun⟩ ?_
    simp [regularItems, regular_expr .load test, regular_openTree msg]
  | importing span names =>
    refine regular_placed span rfl ⟨nofun, nofun⟩ ?_
    simp [regularItems]
  | importingFrom span module names level =>
    refine regular_placed span rfl ⟨nofun, nofun⟩ ?_
    simp [regularItems]
  | global span names =>
    refine regular_placed span rfl ⟨nofun, nofun⟩ ?_
    simp [regularItems]
  | nonlocal span names =>
    refine regular_placed span rfl ⟨nofun, nofun⟩ ?_
    simp [regularItems]
  | expr span value =>
    refine regular_placed span rfl ⟨nofun, nofun⟩ ?_
    simp [regularItems, regular_expr .load value]
  | pass span => exact regular_placed span rfl ⟨nofun, nofun⟩ rfl
  | break_ span => exact regular_placed span rfl ⟨nofun, nofun⟩ rfl
  | continue_ span => exact regular_placed span rfl ⟨nofun, nofun⟩ rfl

private theorem regularItems_stmtTrees (stmts : List Stmt) :
    regularItems (stmtTrees stmts) = true := by
  cases stmts with
  | nil => rfl
  | cons stmt rest =>
    rw [stmtTrees, regularItems, regular_stmt stmt, regularItems_stmtTrees rest, Bool.and_self]

private theorem regular_handler (handler : Handler) : handler.tree.regular = true := by
  cases handler with
  | mk span type name body =>
    refine regular_placed span rfl ⟨nofun, nofun⟩ ?_
    simp [regularItems, regular_openTree type, regularItems_stmtTrees body]

private theorem regularItems_handlerTrees (handlers : List Handler) :
    regularItems (handlerTrees handlers) = true := by
  cases handlers with
  | nil => rfl
  | cons handler rest =>
    rw [handlerTrees, regularItems, regular_handler handler, regularItems_handlerTrees rest,
      Bool.and_self]

private theorem regular_case (branch : Case) : branch.tree.regular = true := by
  cases branch with
  | mk pattern guard body =>
    refine regular_unplaced rfl ⟨nofun, nofun⟩ ?_
    simp [regularItems, regular_pattern pattern, regular_openTree guard,
      regularItems_stmtTrees body]

private theorem regularItems_caseTrees (branches : List Case) :
    regularItems (caseTrees branches) = true := by
  cases branches with
  | nil => rfl
  | cons branch rest =>
    rw [caseTrees, regularItems, regular_case branch, regularItems_caseTrees rest, Bool.and_self]

end

theorem regular_fileTree (body : List Stmt) : (fileTree body).regular = true := by
  refine regular_unplaced rfl ⟨nofun, nofun⟩ ?_
  simp [regularItems, regularItems_stmtTrees body]

/-- The tree of a parsed text is that of its statements, with new tags. -/
theorem exists_fileTree_of_parseFile {tag free : Nat} {text : String} {tree : Value}
    (parsed : parseFile tag text = .ok (tree, free)) :
    ∃ body, tree = ((fileTree body).retag tag).1 := by
  unfold parseFile at parsed
  cases read : parseWith Grammar.file text with
  | error => simp [read, Except.map] at parsed
  | ok body =>
    rw [read] at parsed
    exact ⟨body, (congrArg Prod.fst (Except.ok.inj parsed)).symm⟩

/-- The tree of a parsed text is well formed, its calls have typed parts, and its marks hold no
nodes. -/
theorem wellFormed_of_parseFile {tag free : Nat} {text : String} {tree : Value}
    (parsed : parseFile tag text = .ok (tree, free)) :
    tree.WellFormed ∧ tree.CallsTyped ∧ tree.bareMarks = true := by
  obtain ⟨body, rfl⟩ := exists_fileTree_of_parseFile parsed
  exact Value.wellFormed_retag rfl (regular_fileTree body) tag

/-- The nodes of a parsed text are built as parsing builds them. -/
theorem isRegular_of_parseFile {tag free : Nat} {text : String} {tree : Value}
    (parsed : parseFile tag text = .ok (tree, free)) : ∀ v ∈ tree.nodes, v.isRegular = true := by
  obtain ⟨body, rfl⟩ := exists_fileTree_of_parseFile parsed
  intro v member
  exact Value.isRegular_of_mem_nodes (Value.regular_retag (regular_fileTree body) tag) member

end CallSites.Source
