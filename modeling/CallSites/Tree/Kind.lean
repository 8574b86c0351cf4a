/-! # Kinds of syntax nodes

The grammar of the analysed language as data: every kind of node with its name, the class it
belongs to, its fields in order, and the fields that a node may leave out.
-/

namespace CallSites.Tree

/-- A kind of syntax node. The kinds named `any…` are classes that hold other kinds. -/
inductive Kind where
  | anyNode | anyModule | anyStatement | anyExpression | anyContext | anyBoolOp | anyOperator
  | anyUnaryOp | anyCompareOp | anyHandler | anyPattern | anyTypeIgnore | anySlice | file
  | interactive | expression | functionType | suite | functionDef | asyncFunctionDef | classDef
  | returnStmt | deleteStmt | assign | augAssign | annAssign | forStmt | asyncFor | whileStmt
  | ifStmt | withStmt | asyncWith | matchStmt | raiseStmt | tryStmt | tryStar | assertStmt
  | importStmt | importFrom | globalStmt | nonlocalStmt | exprStmt | passStmt | breakStmt
  | continueStmt | boolOp | namedExpr | binOp | unaryOp | lambda | ifExp | dict | set | listComp
  | setComp | dictComp | generatorExp | await | yield | yieldFrom | compare | call
  | formattedValue | joinedStr | constant | attributeRef | subscript | starred | name | list
  | tuple | slice | load | store | del | augLoad | augStore | param | and | or | add | sub
  | mult | matMult | div | mod | pow | lShift | rShift | bitOr | bitXor | bitAnd | floorDiv
  | invert | not | uAdd | uSub | eq | notEq | lt | ltE | gt | gtE | same | notSame | isIn
  | notIn | comprehension | exceptHandler | arguments | arg | keyword | importAlias | withItem
  | matchCase | matchValue | matchSingleton | matchSequence | matchMapping | matchClass
  | matchStar | matchAs | matchOr | typeIgnore | num | strConst | bytesConst | nameConst
  | ellipsisConst | index | extSlice
deriving DecidableEq, Repr, Inhabited

namespace Kind

/-- Every kind, classes first. -/
def all : List Kind :=
  [.anyNode, .anyModule, .anyStatement, .anyExpression, .anyContext, .anyBoolOp, .anyOperator,
   .anyUnaryOp, .anyCompareOp, .anyHandler, .anyPattern, .anyTypeIgnore, .anySlice, .file,
   .interactive, .expression, .functionType, .suite, .functionDef, .asyncFunctionDef, .classDef,
   .returnStmt, .deleteStmt, .assign, .augAssign, .annAssign, .forStmt, .asyncFor, .whileStmt,
   .ifStmt, .withStmt, .asyncWith, .matchStmt, .raiseStmt, .tryStmt, .tryStar, .assertStmt,
   .importStmt, .importFrom, .globalStmt, .nonlocalStmt, .exprStmt, .passStmt, .breakStmt,
   .continueStmt, .boolOp, .namedExpr, .binOp, .unaryOp, .lambda, .ifExp, .dict, .set,
   .listComp, .setComp, .dictComp, .generatorExp, .await, .yield, .yieldFrom, .compare, .call,
   .formattedValue, .joinedStr, .constant, .attributeRef, .subscript, .starred, .name, .list,
   .tuple, .slice, .load, .store, .del, .augLoad, .augStore, .param, .and, .or, .add, .sub,
   .mult, .matMult, .div, .mod, .pow, .lShift, .rShift, .bitOr, .bitXor, .bitAnd, .floorDiv,
   .invert, .not, .uAdd, .uSub, .eq, .notEq, .lt, .ltE, .gt, .gtE, .same, .notSame, .isIn,
   .notIn, .comprehension, .exceptHandler, .arguments, .arg, .keyword, .importAlias, .withItem,
   .matchCase, .matchValue, .matchSingleton, .matchSequence, .matchMapping, .matchClass,
   .matchStar, .matchAs, .matchOr, .typeIgnore, .num, .strConst, .bytesConst, .nameConst,
   .ellipsisConst, .index, .extSlice]

/-- The name under which traversal tables and messages know the kind. -/
def label : Kind → String
  | .anyNode => "AST"
  | .anyModule => "mod"
  | .anyStatement => "stmt"
  | .anyExpression => "expr"
  | .anyContext => "expr_context"
  | .anyBoolOp => "boolop"
  | .anyOperator => "operator"
  | .anyUnaryOp => "unaryop"
  | .anyCompareOp => "cmpop"
  | .anyHandler => "excepthandler"
  | .anyPattern => "pattern"
  | .anyTypeIgnore => "type_ignore"
  | .anySlice => "slice"
  | .file => "Module"
  | .interactive => "Interactive"
  | .expression => "Expression"
  | .functionType => "FunctionType"
  | .suite => "Suite"
  | .functionDef => "FunctionDef"
  | .asyncFunctionDef => "AsyncFunctionDef"
  | .classDef => "ClassDef"
  | .returnStmt => "Return"
  | .deleteStmt => "Delete"
  | .assign => "Assign"
  | .augAssign => "AugAssign"
  | .annAssign => "AnnAssign"
  | .forStmt => "For"
  | .asyncFor => "AsyncFor"
  | .whileStmt => "While"
  | .ifStmt => "If"
  | .withStmt => "With"
  | .asyncWith => "AsyncWith"
  | .matchStmt => "Match"
  | .raiseStmt => "Raise"
  | .tryStmt => "Try"
  | .tryStar => "TryStar"
  | .assertStmt => "Assert"
  | .importStmt => "Import"
  | .importFrom => "ImportFrom"
  | .globalStmt => "Global"
  | .nonlocalStmt => "Nonlocal"
  | .exprStmt => "Expr"
  | .passStmt => "Pass"
  | .breakStmt => "Break"
  | .continueStmt => "Continue"
  | .boolOp => "BoolOp"
  | .namedExpr => "NamedExpr"
  | .binOp => "BinOp"
  | .unaryOp => "UnaryOp"
  | .lambda => "Lambda"
  | .ifExp => "IfExp"
  | .dict => "Dict"
  | .set => "Set"
  | .listComp => "ListComp"
  | .setComp => "SetComp"
  | .dictComp => "DictComp"
  | .generatorExp => "GeneratorExp"
  | .await => "Await"
  | .yield => "Yield"
  | .yieldFrom => "YieldFrom"
  | .compare => "Compare"
  | .call => "Call"
  | .formattedValue => "FormattedValue"
  | .joinedStr => "JoinedStr"
  | .constant => "Constant"
  | .attributeRef => "Attribute"
  | .subscript => "Subscript"
  | .starred => "Starred"
  | .name => "Name"
  | .list => "List"
  | .tuple => "Tuple"
  | .slice => "Slice"
  | .load => "Load"
  | .store => "Store"
  | .del => "Del"
  | .augLoad => "AugLoad"
  | .augStore => "AugStore"
  | .param => "Param"
  | .and => "And"
  | .or => "Or"
  | .add => "Add"
  | .sub => "Sub"
  | .mult => "Mult"
  | .matMult => "MatMult"
  | .div => "Div"
  | .mod => "Mod"
  | .pow => "Pow"
  | .lShift => "LShift"
  | .rShift => "RShift"
  | .bitOr => "BitOr"
  | .bitXor => "BitXor"
  | .bitAnd => "BitAnd"
  | .floorDiv => "FloorDiv"
  | .invert => "Invert"
  | .not => "Not"
  | .uAdd => "UAdd"
  | .uSub => "USub"
  | .eq => "Eq"
  | .notEq => "NotEq"
  | .lt => "Lt"
  | .ltE => "LtE"
  | .gt => "Gt"
  | .gtE => "GtE"
  | .same => "Is"
  | .notSame => "IsNot"
  | .isIn => "In"
  | .notIn => "NotIn"
  | .comprehension => "comprehension"
  | .exceptHandler => "ExceptHandler"
  | .arguments => "arguments"
  | .arg => "arg"
  | .keyword => "keyword"
  | .importAlias => "alias"
  | .withItem => "withitem"
  | .matchCase => "match_case"
  | .matchValue => "MatchValue"
  | .matchSingleton => "MatchSingleton"
  | .matchSequence => "MatchSequence"
  | .matchMapping => "MatchMapping"
  | .matchClass => "MatchClass"
  | .matchStar => "MatchStar"
  | .matchAs => "MatchAs"
  | .matchOr => "MatchOr"
  | .typeIgnore => "TypeIgnore"
  | .num => "Num"
  | .strConst => "Str"
  | .bytesConst => "Bytes"
  | .nameConst => "NameConstant"
  | .ellipsisConst => "Ellipsis"
  | .index => "Index"
  | .extSlice => "ExtSlice"

/-- The class that directly holds a kind; only the top class has none. -/
def parent : Kind → Option Kind
  | .anyNode => none
  | .file | .interactive | .expression | .functionType | .suite => some .anyModule
  | .functionDef | .asyncFunctionDef | .classDef | .returnStmt | .deleteStmt | .assign
  | .augAssign | .annAssign | .forStmt | .asyncFor | .whileStmt | .ifStmt | .withStmt
  | .asyncWith | .matchStmt | .raiseStmt | .tryStmt | .tryStar | .assertStmt | .importStmt
  | .importFrom | .globalStmt | .nonlocalStmt | .exprStmt | .passStmt | .breakStmt
  | .continueStmt => some .anyStatement
  | .boolOp | .namedExpr | .binOp | .unaryOp | .lambda | .ifExp | .dict | .set | .listComp
  | .setComp | .dictComp | .generatorExp | .await | .yield | .yieldFrom | .compare | .call
  | .formattedValue | .joinedStr | .constant | .attributeRef | .subscript | .starred | .name
  | .list | .tuple | .slice => some .anyExpression
  | .load | .store | .del | .augLoad | .augStore | .param => some .anyContext
  | .and | .or => some .anyBoolOp
  | .add | .sub | .mult | .matMult | .div | .mod | .pow | .lShift | .rShift | .bitOr | .bitXor
  | .bitAnd | .floorDiv => some .anyOperator
  | .invert | .not | .uAdd | .uSub => some .anyUnaryOp
  | .eq | .notEq | .lt | .ltE | .gt | .gtE | .same | .notSame | .isIn | .notIn => some .anyCompareOp
  | .exceptHandler => some .anyHandler
  | .matchValue | .matchSingleton | .matchSequence | .matchMapping | .matchClass | .matchStar
  | .matchAs | .matchOr => some .anyPattern
  | .typeIgnore => some .anyTypeIgnore
  | .num | .strConst | .bytesConst | .nameConst | .ellipsisConst => some .constant
  | .index | .extSlice => some .anySlice
  | _ => some .anyNode

/-- The fields of a kind, in the order in which they are visited. -/
def fields : Kind → List String
  | .file => ["body", "type_ignores"]
  | .interactive | .expression => ["body"]
  | .functionType => ["argtypes", "returns"]
  | .functionDef | .asyncFunctionDef =>
    ["name", "args", "body", "decorator_list", "returns", "type_comment"]
  | .classDef => ["name", "bases", "keywords", "body", "decorator_list"]
  | .returnStmt | .exprStmt | .await | .yield | .yieldFrom | .matchValue | .matchSingleton =>
    ["value"]
  | .deleteStmt => ["targets"]
  | .assign => ["targets", "value", "type_comment"]
  | .augAssign => ["target", "op", "value"]
  | .annAssign => ["target", "annotation", "value", "simple"]
  | .forStmt | .asyncFor => ["target", "iter", "body", "orelse", "type_comment"]
  | .whileStmt | .ifStmt | .ifExp => ["test", "body", "orelse"]
  | .withStmt | .asyncWith => ["items", "body", "type_comment"]
  | .matchStmt => ["subject", "cases"]
  | .raiseStmt => ["exc", "cause"]
  | .tryStmt | .tryStar => ["body", "handlers", "orelse", "finalbody"]
  | .assertStmt => ["test", "msg"]
  | .importStmt | .globalStmt | .nonlocalStmt => ["names"]
  | .importFrom => ["module", "names", "level"]
  | .boolOp => ["op", "values"]
  | .namedExpr => ["target", "value"]
  | .binOp => ["left", "op", "right"]
  | .unaryOp => ["op", "operand"]
  | .lambda => ["args", "body"]
  | .dict => ["keys", "values"]
  | .set => ["elts"]
  | .listComp | .setComp | .generatorExp => ["elt", "generators"]
  | .dictComp => ["key", "value", "generators"]
  | .compare => ["left", "ops", "comparators"]
  | .call => ["func", "args", "keywords"]
  | .formattedValue => ["value", "conversion", "format_spec"]
  | .joinedStr => ["values"]
  | .constant | .nameConst => ["value", "kind"]
  | .attributeRef => ["value", "attr", "ctx"]
  | .subscript => ["value", "slice", "ctx"]
  | .starred => ["value", "ctx"]
  | .name => ["id", "ctx"]
  | .list | .tuple => ["elts", "ctx"]
  | .slice => ["lower", "upper", "step"]
  | .comprehension => ["target", "iter", "ifs", "is_async"]
  | .exceptHandler => ["type", "name", "body"]
  | .arguments =>
    ["posonlyargs", "args", "vararg", "kwonlyargs", "kw_defaults", "kwarg", "defaults"]
  | .arg => ["arg", "annotation", "type_comment"]
  | .keyword => ["arg", "value"]
  | .importAlias => ["name", "asname"]
  | .withItem => ["context_expr", "optional_vars"]
  | .matchCase => ["pattern", "guard", "body"]
  | .matchSequence | .matchOr => ["patterns"]
  | .matchMapping => ["keys", "patterns", "rest"]
  | .matchClass => ["cls", "patterns", "kwd_attrs", "kwd_patterns"]
  | .matchStar => ["name"]
  | .matchAs => ["pattern", "name"]
  | .typeIgnore => ["lineno", "tag"]
  | .num => ["n"]
  | .strConst | .bytesConst => ["s"]
  | _ => []

/-- The field that an attribute name means for a kind: constants and tuples know theirs by other
names too. -/
def fieldNamed (kind : Kind) (name : String) : String :=
  match kind, name with
  | .constant, "n" | .constant, "s" => "value"
  | .tuple, "dims" => "elts"
  | _, _ => name

/-- The fields that read as null when a node is built without them. -/
def optional : Kind → List String
  | .functionDef | .asyncFunctionDef => ["returns", "type_comment"]
  | .returnStmt | .annAssign | .yield => ["value"]
  | .assign | .forStmt | .asyncFor | .withStmt | .asyncWith => ["type_comment"]
  | .raiseStmt => ["exc", "cause"]
  | .assertStmt => ["msg"]
  | .importFrom => ["module", "level"]
  | .formattedValue => ["format_spec"]
  | .constant => ["kind"]
  | .slice => ["lower", "upper", "step"]
  | .exceptHandler => ["type", "name"]
  | .arguments => ["vararg", "kwarg"]
  | .arg => ["annotation", "type_comment"]
  | .keyword => ["arg"]
  | .importAlias => ["asname"]
  | .withItem => ["optional_vars"]
  | .matchCase => ["guard"]
  | .matchMapping => ["rest"]
  | .matchStar => ["name"]
  | .matchAs => ["pattern", "name"]
  | _ => []

/-- The kind with a given name. -/
def ofLabel? (name : String) : Option Kind :=
  all.find? fun kind => kind.label == name

/-- Whether `kind` is `root` or lies in the class `root`. The longest chain of classes has three
members, so three steps upwards reach the top. -/
def within (root kind : Kind) : Bool :=
  let above (k : Kind) : Kind := k.parent.getD .anyNode
  kind == root || above kind == root || above (above kind) == root || root == .anyNode

/-- Kinds of expressions. -/
def isExpression (kind : Kind) : Bool := within .anyExpression kind

end Kind

end CallSites.Tree
