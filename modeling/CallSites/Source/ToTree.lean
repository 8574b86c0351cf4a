import CallSites.Source.Stmt
import CallSites.Tree.Value

/-! # From parsed text to syntax trees

Every expression, pattern and statement as a node of its kind, with its span as position marks. An
expression shows how it is used: read, assigned, or deleted. All values get the tag zero; they
are told apart later by counting.
-/

namespace CallSites.Source

open CallSites.Tree (Kind Value)

/-- How an expression is used. -/
inductive Usage where
  | load | store | del
deriving DecidableEq, Repr

/-- A node without fields, such as an operator. -/
def leaf (kind : Kind) : Value := .node 0 kind [] []

/-- The marker node of a usage. -/
def Usage.tree : Usage → Value
  | load => leaf .load
  | store => leaf .store
  | del => leaf .del

def BoolOp.kind : BoolOp → Kind
  | and => .and
  | or => .or

def BinaryOp.kind : BinaryOp → Kind
  | add => .add
  | sub => .sub
  | mult => .mult
  | matMult => .matMult
  | div => .div
  | mod => .mod
  | pow => .pow
  | lShift => .lShift
  | rShift => .rShift
  | bitOr => .bitOr
  | bitXor => .bitXor
  | bitAnd => .bitAnd
  | floorDiv => .floorDiv

def UnaryOp.kind : UnaryOp → Kind
  | invert => .invert
  | not => .not
  | plus => .uAdd
  | minus => .uSub

def CompareOp.kind : CompareOp → Kind
  | eq => .eq
  | notEq => .notEq
  | lt => .lt
  | ltE => .ltE
  | gt => .gt
  | gtE => .gtE
  | same => .same
  | notSame => .notSame
  | isIn => .isIn
  | notIn => .notIn

/-- The value of a literal. -/
def Literal.value (literal : Literal) : Value :=
  .plain 0 (match literal with
    | none => .null
    | bool b => .bool b
    | ellipsis => .ellipsis
    | int n => .int n
    | float x => .float x
    | imaginary x => .complex (.ofMagnitude false 0) x
    | text codes _ => .ofCodes codes
    | bytes data => .bytes data)

/-- The mark of a text that was written with the prefix `u`. -/
def Literal.mark : Literal → Value
  | text _ true => .str "u"
  | _ => .null

/-- A span as position marks. -/
def Span.marks (span : Span) : List (String × Value) :=
  [("lineno", .int span.start.line), ("col_offset", .int span.start.column),
   ("end_lineno", .int span.endLine), ("end_col_offset", .int span.endColumn)]

/-- A node at a place of the text with all its fields. -/
def placed (kind : Kind) (span : Span) (fields : List Value) : Value :=
  .node 0 kind (fields.map some) span.marks

/-- A node without a place of its own. -/
def unplaced (kind : Kind) (fields : List Value) : Value := .node 0 kind (fields.map some) []

/-- A text, or null. -/
def openText : Option String → Value
  | some s => .str s
  | none => .null

/-- The number that stands for a conversion, or for none. -/
def conversionCode : Option Char → Value
  | some c => .int c.toNat
  | none => .int (-1)

/-- A truth value as a number. -/
def flag (b : Bool) : Value := .int (if b then 1 else 0)

mutual

/-- An expression as it is used. -/
def Expr.tree (usage : Usage) : Expr → Value
  | .boolean span op values =>
    placed .boolOp span [leaf op.kind, .list 0 (exprTrees .load values)]
  | .named span target value =>
    placed .namedExpr span [target.tree .store, value.tree .load]
  | .binary span left op right =>
    placed .binOp span [left.tree .load, leaf op.kind, right.tree .load]
  | .unary span op operand => placed .unaryOp span [leaf op.kind, operand.tree .load]
  | .lambda span params body => placed .lambda span [params.tree, body.tree .load]
  | .conditional span test body orelse =>
    placed .ifExp span [test.tree .load, body.tree .load, orelse.tree .load]
  | .dict span keys values =>
    placed .dict span [.list 0 (openTrees keys), .list 0 (exprTrees .load values)]
  | .set span elts => placed .set span [.list 0 (exprTrees .load elts)]
  | .listComp span elt clauses =>
    placed .listComp span [elt.tree .load, .list 0 (clauseTrees clauses)]
  | .setComp span elt clauses =>
    placed .setComp span [elt.tree .load, .list 0 (clauseTrees clauses)]
  | .dictComp span key value clauses =>
    placed .dictComp span [key.tree .load, value.tree .load, .list 0 (clauseTrees clauses)]
  | .generator span elt clauses =>
    placed .generatorExp span [elt.tree .load, .list 0 (clauseTrees clauses)]
  | .await span value => placed .await span [value.tree .load]
  | .yield span value => placed .yield span [openTree value]
  | .yieldFrom span value => placed .yieldFrom span [value.tree .load]
  | .compare span left ops comparators =>
    placed .compare span [left.tree .load, .list 0 (ops.map fun op => leaf op.kind),
      .list 0 (exprTrees .load comparators)]
  | .call span func args keywords =>
    placed .call span [func.tree .load, .list 0 (exprTrees .load args),
      .list 0 (keywordTrees keywords)]
  | .constant span literal => placed .constant span [literal.value, literal.mark]
  | .member span value attr =>
    placed .attributeRef span [value.tree .load, .str attr, usage.tree]
  | .subscript span value index =>
    placed .subscript span [value.tree .load, index.tree .load, usage.tree]
  | .starred span value => placed .starred span [value.tree usage, usage.tree]
  | .name span id => placed .name span [.str id.name, usage.tree]
  | .list span elts => placed .list span [.list 0 (exprTrees usage elts), usage.tree]
  | .tuple span elts => placed .tuple span [.list 0 (exprTrees usage elts), usage.tree]
  | .slice span lower upper step =>
    placed .slice span [openTree lower, openTree upper, openTree step]
  | .joined span parts => placed .joinedStr span [.list 0 (exprTrees .load parts)]
  | .replacement span value conversion format =>
    placed .formattedValue span [value.tree .load, conversionCode conversion, openTree format]

def exprTrees (usage : Usage) : List Expr → List Value
  | [] => []
  | expr :: rest => expr.tree usage :: exprTrees usage rest

/-- An expression that is read, or null. -/
def openTree : Option Expr → Value
  | none => .null
  | some expr => expr.tree .load

def openTrees : List (Option Expr) → List Value
  | [] => []
  | none :: rest => .null :: openTrees rest
  | some expr :: rest => expr.tree .load :: openTrees rest

def Clause.tree : Clause → Value
  | .mk target iter conditions isAsync =>
    unplaced .comprehension [target.tree .store, iter.tree .load,
      .list 0 (exprTrees .load conditions), flag isAsync]

def clauseTrees : List Clause → List Value
  | [] => []
  | clause :: rest => clause.tree :: clauseTrees rest

def Keyword.tree : Keyword → Value
  | .mk span name value => placed .keyword span [openText name, value.tree .load]

def keywordTrees : List Keyword → List Value
  | [] => []
  | keyword :: rest => keyword.tree :: keywordTrees rest

def Param.tree : Param → Value
  | .mk span name hint => placed .arg span [.str name, openTree hint, .null]

def paramTrees : List Param → List Value
  | [] => []
  | param :: rest => param.tree :: paramTrees rest

/-- A parameter, or null. -/
def openParam : Option Param → Value
  | none => .null
  | some param => param.tree

def Params.tree : Params → Value
  | .mk positional args rest keywordOnly keywordDefaults others defaults =>
    unplaced .arguments [.list 0 (paramTrees positional), .list 0 (paramTrees args), openParam rest,
      .list 0 (paramTrees keywordOnly), .list 0 (openTrees keywordDefaults), openParam others,
      .list 0 (exprTrees .load defaults)]

end

mutual

def Pattern.tree : Pattern → Value
  | .value span value => placed .matchValue span [value.tree .load]
  | .singleton span literal => placed .matchSingleton span [literal.value]
  | .sequence span patterns => placed .matchSequence span [.list 0 (patternTrees patterns)]
  | .mapping span keys patterns rest =>
    placed .matchMapping span [.list 0 (exprTrees .load keys), .list 0 (patternTrees patterns),
      openText rest]
  | .instance_ span cls patterns attrs attrPatterns =>
    placed .matchClass span [cls.tree .load, .list 0 (patternTrees patterns),
      .list 0 (attrs.map .str), .list 0 (patternTrees attrPatterns)]
  | .star span name => placed .matchStar span [openText name]
  | .capture span pattern name => placed .matchAs span [openPattern pattern, openText name]
  | .either span patterns => placed .matchOr span [.list 0 (patternTrees patterns)]

def patternTrees : List Pattern → List Value
  | [] => []
  | pattern :: rest => pattern.tree :: patternTrees rest

/-- A pattern, or null. -/
def openPattern : Option Pattern → Value
  | none => .null
  | some pattern => pattern.tree

end

def Alias.tree (imported : Alias) : Value :=
  placed .importAlias imported.span [.str imported.name, openText imported.asName]

def WithItem.tree (item : WithItem) : Value :=
  unplaced .withItem [item.manager.tree .load,
    (item.target.map (Expr.tree .store)).getD .null]

mutual

def Stmt.tree : Stmt → Value
  | .functionDef span isAsync name params body decorators returns =>
    placed (if isAsync then .asyncFunctionDef else .functionDef) span
      [.str name, params.tree, .list 0 (stmtTrees body), .list 0 (exprTrees .load decorators),
       openTree returns, .null]
  | .classDef span name bases keywords body decorators =>
    placed .classDef span [.str name, .list 0 (exprTrees .load bases),
      .list 0 (keywordTrees keywords), .list 0 (stmtTrees body),
      .list 0 (exprTrees .load decorators)]
  | .returning span value => placed .returnStmt span [openTree value]
  | .delete span targets => placed .deleteStmt span [.list 0 (exprTrees .del targets)]
  | .assign span targets value =>
    placed .assign span [.list 0 (exprTrees .store targets), value.tree .load, .null]
  | .augAssign span target op value =>
    placed .augAssign span [target.tree .store, leaf op.kind, value.tree .load]
  | .annAssign span target hint value simple =>
    placed .annAssign span [target.tree .store, hint.tree .load, openTree value,
      flag simple]
  | .forLoop span isAsync target iter body orelse =>
    placed (if isAsync then .asyncFor else .forStmt) span
      [target.tree .store, iter.tree .load, .list 0 (stmtTrees body), .list 0 (stmtTrees orelse),
       .null]
  | .whileLoop span test body orelse =>
    placed .whileStmt span [test.tree .load, .list 0 (stmtTrees body), .list 0 (stmtTrees orelse)]
  | .branch span test body orelse =>
    placed .ifStmt span [test.tree .load, .list 0 (stmtTrees body), .list 0 (stmtTrees orelse)]
  | .withBlock span isAsync items body =>
    placed (if isAsync then .asyncWith else .withStmt) span
      [.list 0 (items.map WithItem.tree), .list 0 (stmtTrees body), .null]
  | .matching span subject cases =>
    placed .matchStmt span [subject.tree .load, .list 0 (caseTrees cases)]
  | .raising span exc cause => placed .raiseStmt span [openTree exc, openTree cause]
  | .tryBlock span isGroup body handlers orelse finalbody =>
    placed (if isGroup then .tryStar else .tryStmt) span
      [.list 0 (stmtTrees body), .list 0 (handlerTrees handlers), .list 0 (stmtTrees orelse),
       .list 0 (stmtTrees finalbody)]
  | .assertion span test msg => placed .assertStmt span [test.tree .load, openTree msg]
  | .importing span names => placed .importStmt span [.list 0 (names.map Alias.tree)]
  | .importingFrom span module names level =>
    placed .importFrom span [openText module, .list 0 (names.map Alias.tree), .int level]
  | .global span names => placed .globalStmt span [.list 0 (names.map .str)]
  | .nonlocal span names => placed .nonlocalStmt span [.list 0 (names.map .str)]
  | .expr span value => placed .exprStmt span [value.tree .load]
  | .pass span => placed .passStmt span []
  | .break_ span => placed .breakStmt span []
  | .continue_ span => placed .continueStmt span []

def stmtTrees : List Stmt → List Value
  | [] => []
  | stmt :: rest => stmt.tree :: stmtTrees rest

def Handler.tree : Handler → Value
  | .mk span type name body =>
    placed .exceptHandler span [openTree type, openText name, .list 0 (stmtTrees body)]

def handlerTrees : List Handler → List Value
  | [] => []
  | handler :: rest => handler.tree :: handlerTrees rest

def Case.tree : Case → Value
  | .mk pattern guard body =>
    unplaced .matchCase [pattern.tree, openTree guard, .list 0 (stmtTrees body)]

def caseTrees : List Case → List Value
  | [] => []
  | case :: rest => case.tree :: caseTrees rest

end

/-- The tree of a whole text. -/
def fileTree (body : List Stmt) : Value := unplaced .file [.list 0 (stmtTrees body), .list 0 []]

end CallSites.Source
