import CallSites.Source.Expr

/-! # Patterns and statements

The patterns and statements of the analysed language as the parser builds them.
-/

namespace CallSites.Source

/-- A pattern of a `match` statement. -/
inductive Pattern where
  | value (span : Span) (value : Expr)
  | singleton (span : Span) (value : Literal)
  | sequence (span : Span) (patterns : List Pattern)
  | mapping (span : Span) (keys : List Expr) (patterns : List Pattern) (rest : Option String)
  | instance_ (span : Span) (cls : Expr) (patterns : List Pattern) (attrs : List String)
    (attrPatterns : List Pattern)
  | star (span : Span) (name : Option String)
  | capture (span : Span) (pattern : Option Pattern) (name : Option String)
  | either (span : Span) (patterns : List Pattern)

instance : Inhabited Pattern := ⟨.capture ⟨⟨0, 0⟩, 0, 0⟩ none none⟩

/-- An imported name, and the name it is given. -/
structure Alias where
  span : Span
  name : String
  asName : Option String

/-- A context manager, and what it is assigned to. -/
structure WithItem where
  manager : Expr
  target : Option Expr

mutual

/-- A statement. -/
inductive Stmt where
  | functionDef (span : Span) (isAsync : Bool) (name : String) (params : Params)
    (body : List Stmt) (decorators : List Expr) (returns : Option Expr)
  | classDef (span : Span) (name : String) (bases : List Expr) (keywords : List Keyword)
    (body : List Stmt) (decorators : List Expr)
  | returning (span : Span) (value : Option Expr)
  | delete (span : Span) (targets : List Expr)
  | assign (span : Span) (targets : List Expr) (value : Expr)
  | augAssign (span : Span) (target : Expr) (op : BinaryOp) (value : Expr)
  | annAssign (span : Span) (target hint : Expr) (value : Option Expr) (simple : Bool)
  | forLoop (span : Span) (isAsync : Bool) (target iter : Expr) (body orelse : List Stmt)
  | whileLoop (span : Span) (test : Expr) (body orelse : List Stmt)
  | branch (span : Span) (test : Expr) (body orelse : List Stmt)
  | withBlock (span : Span) (isAsync : Bool) (items : List WithItem) (body : List Stmt)
  | matching (span : Span) (subject : Expr) (cases : List Case)
  | raising (span : Span) (exc cause : Option Expr)
  | tryBlock (span : Span) (isGroup : Bool) (body : List Stmt) (handlers : List Handler)
    (orelse finalbody : List Stmt)
  | assertion (span : Span) (test : Expr) (msg : Option Expr)
  | importing (span : Span) (names : List Alias)
  | importingFrom (span : Span) (module : Option String) (names : List Alias) (level : Nat)
  | global (span : Span) (names : List String)
  | nonlocal (span : Span) (names : List String)
  | expr (span : Span) (value : Expr)
  | pass (span : Span)
  | break_ (span : Span)
  | continue_ (span : Span)

/-- A handler of a `try` statement. -/
inductive Handler where
  | mk (span : Span) (type : Option Expr) (name : Option String) (body : List Stmt)

/-- A case of a `match` statement. -/
inductive Case where
  | mk (pattern : Pattern) (guard : Option Expr) (body : List Stmt)

end

instance : Inhabited Stmt := ⟨.pass ⟨⟨0, 0⟩, 0, 0⟩⟩

end CallSites.Source
