import CallSites.Source.Literal
import CallSites.Source.Position
import CallSites.Text.Normal

/-! # Names and expressions

The expressions of the analysed language as the parser builds them, each with its span. A name may
be used as an identifier unless it is reserved. Whether an expression is read, assigned or deleted
follows from the place where it stands and is not stored.
-/

namespace CallSites.Source

/-- Names that are reserved. -/
def keywords : List String :=
  ["False", "None", "True", "and", "as", "assert", "async", "await", "break", "class", "continue",
   "def", "del", "elif", "else", "except", "finally", "for", "from", "global", "if", "import",
   "in", "is", "lambda", "nonlocal", "not", "or", "pass", "raise", "return", "try", "while",
   "with", "yield"]

/-- Whether a name may be used as an identifier. -/
def isFree (name : String) : Bool := !name.isEmpty && !keywords.contains name

/-- A name that may be used as an identifier, as it is written. -/
structure Identifier where
  text : String
  free : isFree text = true
deriving DecidableEq, Repr

/-- The name that an identifier stands for. It may be a reserved one. -/
def Identifier.name (id : Identifier) : String := Text.normalForm id.text

inductive BoolOp where
  | and | or
deriving DecidableEq, Repr

inductive BinaryOp where
  | add | sub | mult | matMult | div | mod | pow | lShift | rShift | bitOr | bitXor | bitAnd
  | floorDiv
deriving DecidableEq, Repr

inductive UnaryOp where
  | invert | not | plus | minus
deriving DecidableEq, Repr

inductive CompareOp where
  | eq | notEq | lt | ltE | gt | gtE | same | notSame | isIn | notIn
deriving DecidableEq, Repr

mutual

/-- An expression. -/
inductive Expr where
  | boolean (span : Span) (op : BoolOp) (values : List Expr)
  | named (span : Span) (target value : Expr)
  | binary (span : Span) (left : Expr) (op : BinaryOp) (right : Expr)
  | unary (span : Span) (op : UnaryOp) (operand : Expr)
  | lambda (span : Span) (params : Params) (body : Expr)
  | conditional (span : Span) (test body orelse : Expr)
  /-- An entry without a key is unpacked. -/
  | dict (span : Span) (keys : List (Option Expr)) (values : List Expr)
  | set (span : Span) (elts : List Expr)
  | listComp (span : Span) (elt : Expr) (clauses : List Clause)
  | setComp (span : Span) (elt : Expr) (clauses : List Clause)
  | dictComp (span : Span) (key value : Expr) (clauses : List Clause)
  | generator (span : Span) (elt : Expr) (clauses : List Clause)
  | await (span : Span) (value : Expr)
  | yield (span : Span) (value : Option Expr)
  | yieldFrom (span : Span) (value : Expr)
  | compare (span : Span) (left : Expr) (ops : List CompareOp) (comparators : List Expr)
  | call (span : Span) (func : Expr) (args : List Expr) (keywords : List Keyword)
  | constant (span : Span) (value : Literal)
  | member (span : Span) (value : Expr) (attr : String)
  | subscript (span : Span) (value index : Expr)
  | starred (span : Span) (value : Expr)
  | name (span : Span) (id : Identifier)
  | list (span : Span) (elts : List Expr)
  | tuple (span : Span) (elts : List Expr)
  | slice (span : Span) (lower upper step : Option Expr)
  /-- A formatted string from its parts: constants and replacement fields. -/
  | joined (span : Span) (parts : List Expr)
  /-- A replacement field of a formatted string with its conversion and its format. -/
  | replacement (span : Span) (value : Expr) (conversion : Option Char) (format : Option Expr)

/-- A `for` clause of a comprehension with its conditions. -/
inductive Clause where
  | mk (target iter : Expr) (conditions : List Expr) (isAsync : Bool)

/-- A keyword argument; one without a name is unpacked. -/
inductive Keyword where
  | mk (span : Span) (name : Option String) (value : Expr)

/-- A parameter of a function. -/
inductive Param where
  | mk (span : Span) (name : String) (hint : Option Expr)

/-- The parameters of a function. The defaults belong to the last of the positional ones, and
there is one keyword default, or its absence, for each keyword-only parameter. -/
inductive Params where
  | mk (positional args : List Param) (rest : Option Param) (keywordOnly : List Param)
    (keywordDefaults : List (Option Expr)) (others : Option Param) (defaults : List Expr)

end

instance : Inhabited Expr := ⟨.tuple ⟨⟨0, 0⟩, 0, 0⟩ []⟩

instance : Inhabited Params := ⟨.mk [] [] none [] [] none []⟩

namespace Expr

/-- Where an expression stands. -/
def span : Expr → Span
  | boolean span .. | named span .. | binary span .. | unary span .. | lambda span ..
  | conditional span .. | dict span .. | set span .. | listComp span .. | setComp span ..
  | dictComp span .. | generator span .. | await span .. | yield span .. | yieldFrom span ..
  | compare span .. | call span .. | constant span .. | member span .. | subscript span ..
  | starred span .. | name span .. | list span .. | tuple span .. | slice span .. | joined span ..
  | replacement span .. => span

mutual

/-- Whether an expression can be assigned to. -/
def isTarget : Expr → Bool
  | name .. | member .. | subscript .. => true
  | starred _ value => isTarget value
  | list _ elts | tuple _ elts => areTargets elts
  | _ => false

def areTargets : List Expr → Bool
  | [] => true
  | elt :: rest => isTarget elt && areTargets rest

end

mutual

/-- Whether an expression can be deleted. -/
def isDeletable : Expr → Bool
  | name .. | member .. | subscript .. => true
  | list _ elts | tuple _ elts => areDeletable elts
  | _ => false

def areDeletable : List Expr → Bool
  | [] => true
  | elt :: rest => isDeletable elt && areDeletable rest

end

/-- Whether an expression is a single place: a name, a member or an item. -/
def isPlace : Expr → Bool
  | name .. | member .. | subscript .. => true
  | _ => false

end Expr

/-- A part of a formatted string as it is read: literal text by its code points, or a replacement
field, whose format has parts again. A field comes with the span of the string that holds it. -/
inductive FormattedPart where
  | text (codes : List Nat)
  | field (holder : Span) (value : Expr) (conversion : Option Char)
    (format : Option (List FormattedPart))

end CallSites.Source
