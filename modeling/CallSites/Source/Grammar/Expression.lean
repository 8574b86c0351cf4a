import CallSites.Source.Parser

/-! # Expression grammar

Parsers for expressions, one for each level of binding. What lies inside brackets or behind an
operator that binds to the right is read by the parsers of `Inner`, which stand for the same
grammar one level further in. `inner` builds them up to a number of levels; every level reads at
least one token, so a text has fewer levels than tokens.
-/

namespace CallSites.Source.Grammar

open CallSites.Source.Parser

/-- The parsers for parts that lie one level further in. -/
structure Inner where
  expression : Parser Expr
  disjunction : Parser Expr
  inversion : Parser Expr
  bitOr : Parser Expr
  factor : Parser Expr

/-- Keywords with which an expression may start. -/
def expressionKeywords : List String := ["None", "True", "False", "lambda", "not", "await"]

/-- Symbols with which an expression may start. -/
def expressionSymbols : List String := ["(", "[", "\x7b", "...", "-", "+", "~"]

/-- Whether an expression may start with the word. -/
def startsExpression : Word → Bool
  | .name text => isFree text || expressionKeywords.contains text
  | .literal _ | .string _ => true
  | .symbol text => expressionSymbols.contains text
  | _ => false

/-- Whether an expression, starred or not, may start with the word. -/
def startsStarred (word : Word) : Bool := startsExpression word || word == .symbol "*"

/-- Whether an expression, starred or not, comes next. -/
def moreStarred : Parser Bool := return startsStarred (← peek)

/-- Whether a name and `:=` come next. -/
def startsNamed : Parser Bool := do
  match ← peek, ← peekSecond with
  | .name text, .symbol ":=" => return isFree text
  | _, _ => return false

/-- Whether a clause of a comprehension comes next. -/
def startsClause : Parser Bool := do
  match ← peek with
  | .name "for" => return true
  | .name "async" => return (← peekSecond) == .name "for"
  | _ => return false

/-- The bytes that byte strings make together. -/
def joinBytes? : List StringPart → Option (List UInt8)
  | [] => some []
  | .bytes data :: rest => (joinBytes? rest).map (data ++ ·)
  | _ :: _ => none

/-- The parts that texts and formatted strings make together. -/
def joinTexts? : List (StringPart × List FormattedPart) → Option (List FormattedPart)
  | [] => some []
  | (.text codes _, _) :: rest => (joinTexts? rest).map (.text codes :: ·)
  | (.formatted .., parts) :: rest => (joinTexts? rest).map (parts ++ ·)
  | _ :: _ => none

/-- Whether the first part of a string was written with the prefix `u`. -/
def isMarked : List StringPart → Bool
  | .text _ marked :: _ => marked
  | _ => false

/-- The literal text of some parts. -/
def literalCodes : List FormattedPart → List Nat
  | [] => []
  | .text codes :: rest => codes ++ literalCodes rest
  | .field .. :: rest => literalCodes rest

/-- The constant with the given text, which is left out if there is none. -/
def constants (span : Span) (marked : Bool) (codes : List Nat) : List Expr :=
  if codes.isEmpty then [] else [.constant span (.text codes marked)]

section Formatted

variable (span : Span) (marked : Bool)

mutual

/-- The parts of a formatted string as expressions. Texts that follow each other are one constant,
of which `before` has been read. Everything has the span and the mark of all the strings that are
joined, but for a format: it has the span of its own string, and so has the constant it ends
with. -/
def partExprs (last : Span × Bool) (before : List Nat) : List FormattedPart → List Expr
  | [] => constants last.1 last.2 before
  | .text codes :: rest => partExprs last (before ++ codes) rest
  | .field holder value conversion format :: rest =>
    constants span marked before ++
      .replacement span value conversion (formatExpr holder format) :: partExprs last [] rest

def formatExpr (holder : Span) : Option (List FormattedPart) → Option Expr
  | none => none
  | some parts => some (.joined holder (partExprs (holder, false) [] parts))

end

end Formatted

/-- Adjacent string literals, of which one at least is there: all bytes, or all text. -/
def strings : Parser Expr := do
  let start ← here
  let found ← iterate (fun found => do
    match ← peek with
    | .string part => do
      let parts ← peekParts
      skip
      return some (found ++ [(part, parts)])
    | _ => return none) []
  let kinds := found.map Prod.fst
  if kinds.isEmpty then fail
  else match joinBytes? kinds, joinTexts? found with
    | some data, _ => return .constant (← spanFrom start) (.bytes data)
    | none, some parts =>
      let span ← spanFrom start
      if kinds.any (· matches .formatted ..) then
        let marked := isMarked kinds
        return .joined span (partExprs span marked (span, marked) [] parts)
      else return .constant span (.text (literalCodes parts) (isMarked kinds))
    | none, none => fail

/-- Reads an expression that can be assigned to. -/
def assignable (read : Parser Expr) : Parser Expr := do
  let target ← read
  if target.isTarget then return target else fail

/-- The binary operators that group to the left, loosest first. -/
def binaryOps : List (List (String × BinaryOp)) :=
  [[("|", .bitOr)], [("^", .bitXor)], [("&", .bitAnd)], [("<<", .lShift), (">>", .rShift)],
   [("+", .add), ("-", .sub)],
   [("*", .mult), ("/", .div), ("//", .floorDiv), ("%", .mod), ("@", .matMult)]]

/-- The operator of a row that comes next. -/
def nextOp? {α : Type} (ops : List (String × α)) : Parser (Option α) := do
  match ← peek with
  | .symbol text => return ops.lookup text
  | _ => return none

/-- The comparison that comes next, with the number of its words. -/
def nextComparison? : Parser (Option (CompareOp × Nat)) := do
  match ← peek with
  | .symbol text =>
    return ([("==", .eq), ("!=", .notEq), ("<", .lt), ("<=", .ltE), (">", .gt), (">=", .gtE)].lookup
      text).map (·, 1)
  | .name "in" => return some (.isIn, 1)
  | .name "is" =>
    if (← peekSecond) == .name "not" then return some (.notSame, 2) else return some (.same, 1)
  | .name "not" =>
    if (← peekSecond) == .name "in" then return some (.notIn, 2) else return none
  | _ => return none

section Inside

variable (inner : Inner)

/-- A name with `:=`, or an expression. -/
def named : Parser Expr := do
  let start ← here
  if ← startsNamed then
    let id ← identifier
    let target := Expr.name (← spanFrom start) id
    skip
    let value ← inner.expression
    return .named (← spanFrom start) target value
  else
    let value ← inner.expression
    if ← isSymbol ":=" then fail else return value

/-- A star and what it unpacks, or what `other` reads. -/
def starredOr (operand other : Parser Expr) : Parser Expr := do
  let start ← here
  if ← accept "*" then
    let value ← operand
    return .starred (← spanFrom start) value
  else other

/-- An item of a display: starred, named, or an expression. -/
def displayItem : Parser Expr := starredOr inner.bitOr (named inner)

/-- An item of a list of expressions without brackets. -/
def listItem : Parser Expr := starredOr inner.bitOr inner.expression

/-- Expressions separated by commas; any comma makes a tuple of them. -/
def expressionList : Parser Expr := do
  let start ← here
  let (items, comma) ← commaList (listItem inner) moreStarred
  match items, comma with
  | [item], false => return item
  | items, _ => return .tuple (← spanFrom start) items

/-- One target: starred, or a place, or a display of targets. -/
def target : Parser Expr := assignable (starredOr inner.bitOr inner.bitOr)

/-- Targets separated by commas; any comma makes a tuple of them. -/
def targetList : Parser Expr := do
  let start ← here
  let (items, comma) ← commaList (target inner) moreStarred
  match items, comma with
  | [item], false => return item
  | items, _ => return .tuple (← spanFrom start) items

/-- `yield from` an expression, or `yield` with or without values. -/
def yielding : Parser Expr := do
  let start ← here
  expectName "yield"
  if ← acceptName "from" then
    let value ← inner.expression
    return .yieldFrom (← spanFrom start) value
  else if ← moreStarred then
    let value ← expressionList inner
    return .yield (← spanFrom start) (some value)
  else return .yield (← spanFrom start) none

/-- The right side of an assignment. -/
def assigned : Parser Expr := do
  if ← isName "yield" then yielding inner else expressionList inner

/-- The clauses of a comprehension, at least one. -/
def clauses : Parser (List Clause) := do
  let clause : Parser Clause := do
    let isAsync ← acceptName "async"
    expectName "for"
    let target ← targetList inner
    expectName "in"
    let iter ← inner.disjunction
    let conditions ← iterate (fun conditions => do
      if ← acceptName "if" then return some (conditions ++ [← inner.disjunction])
      else return none) []
    return .mk target iter conditions isAsync
  let first ← clause
  iterate (fun found => do
    if ← startsClause then return some (found ++ [← clause]) else return none) [first]

/-- The arguments read so far: once a keyword argument was read no positional one may follow, and
once keyword arguments were unpacked no positional ones may be unpacked. -/
structure Arguments where
  args : List Expr := []
  keywords : List Keyword := []
  afterKeyword : Bool := false
  afterUnpacked : Bool := false

/-- One argument of a call. -/
def argument (found : Arguments) : Parser Arguments := do
  let start ← here
  match ← peek, ← peekSecond with
  | .symbol "*", _ =>
    if found.afterUnpacked then fail
    skip
    let value ← inner.expression
    let arg := Expr.starred (← spanFrom start) value
    return { found with args := found.args ++ [arg] }
  | .symbol "**", _ =>
    skip
    let value ← inner.expression
    let keyword := Keyword.mk (← spanFrom start) none value
    return { found with
      keywords := found.keywords ++ [keyword], afterKeyword := true, afterUnpacked := true }
  | .name _, .symbol "=" =>
    let id ← identifierText
    skip
    let value ← inner.expression
    let keyword := Keyword.mk (← spanFrom start) (some id) value
    return { found with keywords := found.keywords ++ [keyword], afterKeyword := true }
  | _, _ =>
    if found.afterKeyword then fail
    let arg ← named inner
    if ← isSymbol "=" then fail
    return { found with args := found.args ++ [arg] }

/-- The arguments of a call up to the closing parenthesis, after those that were found; they go on
if the last one was followed by a comma. -/
def argumentsRest (found : Arguments) (goesOn : Bool) : Parser Arguments := do
  let (found, _) ← iterate (fun (found, goesOn) => do
    if goesOn = false then return none
    else if ← isSymbol ")" then return none
    else
      let found ← argument inner found
      return some (found, ← accept ",")) (found, goesOn)
  expect ")"
  return found

/-- The arguments of a class from the opening parenthesis on. -/
def arguments : Parser Arguments := do
  expect "("
  argumentsRest inner {} true

/-- Whether an argument without a star or a keyword comes next. -/
def startsPlainArgument : Parser Bool := do
  match ← peek, ← peekSecond with
  | .symbol text, _ => return !(["*", "**", ")"].contains text)
  | .name _, .symbol "=" => return false
  | _, _ => return true

/-- The arguments of a call from the opening parenthesis on. A generator may stand alone without
parentheses of its own; its span is that of the argument list. -/
def callArguments : Parser Arguments := do
  let start ← here
  expect "("
  if ← startsPlainArgument then
    let arg ← named inner
    if ← startsClause then
      let found ← clauses inner
      expect ")"
      return { args := [.generator (← spanFrom start) arg found] }
    else if ← isSymbol "=" then fail
    else argumentsRest inner { args := [arg] } (← accept ",")
  else argumentsRest inner {} true

/-- One index: a slice, or an expression. -/
def index : Parser Expr := do
  let start ← here
  let bound (closers : List String) : Parser (Option Expr) := do
    match ← peek with
    | .symbol text =>
      if closers.contains text then return none else return some (← inner.expression)
    | _ => return some (← inner.expression)
  if ← startsNamed then named inner
  else
    let lower ← bound [":"]
    if ← accept ":" then
      let upper ← bound [":", ",", "]"]
      let step ← if ← accept ":" then bound [",", "]"] else pure none
      return .slice (← spanFrom start) lower upper step
    else match lower with
      | some value => return value
      | none => fail

/-- What stands between the brackets of a subscript: one index, or a tuple of them. -/
def indexes : Parser Expr := do
  let start ← here
  let (items, comma) ← commaList (starredOr inner.expression (index inner))
    (return !(← isSymbol "]"))
  match items, comma with
  | [.starred span value], false => return .tuple (← spanFrom start) [.starred span value]
  | [item], false => return item
  | items, _ => return .tuple (← spanFrom start) items

/-- What may stand in parentheses: nothing, `yield`, a comprehension, a tuple, or an expression,
which keeps its own span. -/
def parenthesized : Parser Expr := do
  let start ← here
  expect "("
  if ← accept ")" then return .tuple (← spanFrom start) []
  else if ← isName "yield" then
    let value ← yielding inner
    expect ")"
    return value
  else
    let first ← displayItem inner
    let isStarred := first matches .starred ..
    if !isStarred && (← startsClause) then
      let found ← clauses inner
      expect ")"
      return .generator (← spanFrom start) first found
    else if ← isSymbol "," then
      let (items, _) ← commaRest (displayItem inner) moreStarred first
      expect ")"
      return .tuple (← spanFrom start) items
    else if isStarred then fail
    else
      expect ")"
      return first

/-- A list or a list comprehension. -/
def bracketed : Parser Expr := do
  let start ← here
  expect "["
  if ← accept "]" then return .list (← spanFrom start) []
  else
    let first ← displayItem inner
    if !(first matches .starred ..) && (← startsClause) then
      let found ← clauses inner
      expect "]"
      return .listComp (← spanFrom start) first found
    else
      let (items, _) ← commaRest (displayItem inner) moreStarred first
      expect "]"
      return .list (← spanFrom start) items

/-- An entry of a dictionary: a key with its value, or an unpacked dictionary. -/
def entry : Parser (Option Expr × Expr) := do
  if ← accept "**" then return (none, ← inner.bitOr)
  else
    let key ← inner.expression
    expect ":"
    return (some key, ← inner.expression)

/-- Whether an entry of a dictionary comes next. -/
def moreEntries : Parser Bool := do
  let word ← peek
  return startsExpression word || word == .symbol "**"

/-- A dictionary from its first entry on. -/
def dictRest (start : Pos) (first : Option Expr × Expr) : Parser Expr := do
  let (entries, _) ← commaRest (entry inner) moreEntries first
  expect "\x7d"
  return .dict (← spanFrom start) (entries.map Prod.fst) (entries.map Prod.snd)

/-- A set from its first item on. -/
def setRest (start : Pos) (first : Expr) : Parser Expr := do
  if !(first matches .starred ..) && (← startsClause) then
    let found ← clauses inner
    expect "\x7d"
    return .setComp (← spanFrom start) first found
  else
    let (items, _) ← commaRest (displayItem inner) moreStarred first
    expect "\x7d"
    return .set (← spanFrom start) items

/-- A dictionary, a set, or a comprehension of one of them. -/
def braced : Parser Expr := do
  let start ← here
  expect "\x7b"
  if ← accept "\x7d" then return .dict (← spanFrom start) [] []
  else if ← isSymbol "**" then dictRest inner start (← entry inner)
  else if (← isSymbol "*") || (← startsNamed) then setRest inner start (← displayItem inner)
  else
    let first ← inner.expression
    if ← accept ":" then
      let value ← inner.expression
      if ← startsClause then
        let found ← clauses inner
        expect "\x7d"
        return .dictComp (← spanFrom start) first value found
      else dictRest inner start (some first, value)
    else if ← isSymbol ":=" then fail
    else setRest inner start first

/-- An expression that is one word or stands in brackets. -/
def atom : Parser Expr := do
  let start ← here
  let constant (literal : Literal) : Parser Expr := do
    skip
    return .constant (← spanFrom start) literal
  match ← peek with
  | .name "None" => constant .none
  | .name "True" => constant (.bool true)
  | .name "False" => constant (.bool false)
  | .name _ =>
    let id ← identifier
    return .name (← spanFrom start) id
  | .literal literal => constant literal
  | .string _ => strings
  | .symbol "..." => constant .ellipsis
  | .symbol "(" => parenthesized inner
  | .symbol "[" => bracketed inner
  | .symbol "\x7b" => braced inner
  | _ => fail

/-- An atom with the members, calls and subscripts that follow it. -/
def primary : Parser Expr := do
  let start ← here
  let first ← atom inner
  iterate (fun value => do
    if ← accept "." then
      let attr ← identifierText
      return some (.member (← spanFrom start) value attr)
    else if ← isSymbol "(" then
      let found ← callArguments inner
      return some (.call (← spanFrom start) value found.args found.keywords)
    else if ← accept "[" then
      let index ← indexes inner
      expect "]"
      return some (.subscript (← spanFrom start) value index)
    else return none) first

/-- A primary, awaited or not. -/
def awaited : Parser Expr := do
  let start ← here
  if ← acceptName "await" then
    let value ← primary inner
    return .await (← spanFrom start) value
  else primary inner

/-- A power. -/
def power : Parser Expr := do
  let start ← here
  let base ← awaited inner
  if ← accept "**" then
    let exponent ← inner.factor
    return .binary (← spanFrom start) base .pow exponent
  else return base

/-- A sign and its operand, or a power. -/
def factor : Parser Expr := do
  let start ← here
  match ← nextOp? [("+", UnaryOp.plus), ("-", .minus), ("~", .invert)] with
  | some op =>
    skip
    let operand ← inner.factor
    return .unary (← spanFrom start) op operand
  | none => power inner

/-- Operations of the given rows of operators, loosest first. -/
def binaryRows : List (List (String × BinaryOp)) → Parser Expr
  | [] => factor inner
  | ops :: tighter => do
    let start ← here
    let first ← binaryRows tighter
    iterate (fun left => do
      match ← nextOp? ops with
      | some op =>
        skip
        let right ← binaryRows tighter
        return some (.binary (← spanFrom start) left op right)
      | none => return none) first

/-- An operation that binds tighter than a comparison. -/
def bitOr : Parser Expr := binaryRows inner binaryOps

/-- A chain of comparisons. -/
def comparison : Parser Expr := do
  let start ← here
  let left ← bitOr inner
  let pairs ← iterate (fun pairs => do
    match ← nextComparison? with
    | some (op, words) =>
      skip
      if words = 2 then skip
      return some (pairs ++ [(op, ← bitOr inner)])
    | none => return none) ([] : List (CompareOp × Expr))
  if pairs.isEmpty then return left
  else return .compare (← spanFrom start) left (pairs.map Prod.fst) (pairs.map Prod.snd)

/-- A negation, or a comparison. -/
def inversion : Parser Expr := do
  let start ← here
  if ← acceptName "not" then
    let operand ← inner.inversion
    return .unary (← spanFrom start) .not operand
  else comparison inner

/-- Operands joined by one boolean operator. -/
def joined (word : String) (op : BoolOp) (operand : Parser Expr) : Parser Expr := do
  let start ← here
  let first ← operand
  let values ← iterate (fun values => do
    if ← acceptName word then return some (values ++ [← operand]) else return none) [first]
  match values with
  | [value] => return value
  | values => return .boolean (← spanFrom start) op values

/-- A disjunction of conjunctions. -/
def disjunction : Parser Expr := joined "or" .or (joined "and" .and (inversion inner))

/-- What has been read of a parameter list. -/
structure ParamList where
  positional : List Param := []
  args : List Param := []
  defaults : List Expr := []
  /-- Whether a star was read. -/
  starred : Bool := false
  /-- Whether the last thing read was a bare star, which a parameter has to follow. -/
  dangling : Bool := false
  rest : Option Param := none
  keywordOnly : List Param := []
  keywordDefaults : List (Option Expr) := []
  others : Option Param := none
  /-- Whether another parameter may follow. -/
  goesOn : Bool := true

/-- A parameter name with its annotation, where one is allowed. The annotation of the parameter
that takes the rest may be starred. -/
def parameterName (annotated mayStar : Bool) : Parser Param := do
  let start ← here
  let name ← identifierText
  if annotated = true then
    if ← accept ":" then
      let hint ← if mayStar = true then listItem inner else inner.expression
      return .mk (← spanFrom start) name (some hint)
    else return .mk (← spanFrom start) name none
  else return .mk (← spanFrom start) name none

/-- One parameter, a star, or a slash. -/
def parameter (annotated : Bool) (found : ParamList) : Parser ParamList := do
  if ← accept "**" then
    if found.dangling then fail
    let param ← parameterName inner annotated false
    let _ ← accept ","
    return { found with others := some param, goesOn := false }
  else if ← accept "*" then
    if found.starred then fail
    if ← accept "," then return { found with starred := true, dangling := true }
    else
      let param ← parameterName inner annotated true
      return { found with starred := true, rest := some param, goesOn := ← accept "," }
  else if ← accept "/" then
    if found.starred || !found.positional.isEmpty || found.args.isEmpty then fail
    return { found with positional := found.args, args := [], goesOn := ← accept "," }
  else
    let param ← parameterName inner annotated false
    let default ← if ← accept "=" then pure (some (← inner.expression)) else pure none
    if found.starred then
      return { found with
        keywordOnly := found.keywordOnly ++ [param], dangling := false,
        keywordDefaults := found.keywordDefaults ++ [default], goesOn := ← accept "," }
    else match default with
      | some value =>
        return { found with
          args := found.args ++ [param], defaults := found.defaults ++ [value],
          goesOn := ← accept "," }
      | none =>
        if found.defaults.isEmpty then
          return { found with args := found.args ++ [param], goesOn := ← accept "," }
        else fail

/-- Parameters up to the symbol that closes them. -/
def parameters (annotated : Bool) (closer : String) : Parser Params := do
  let found ← iterate (fun found => do
    if found.goesOn = false then return none
    else if ← isSymbol closer then return none
    else return some (← parameter inner annotated found)) ({} : ParamList)
  if found.dangling then fail
  return .mk found.positional found.args found.rest found.keywordOnly found.keywordDefaults
    found.others found.defaults

/-- A function without a name. -/
def lambda : Parser Expr := do
  let start ← here
  expectName "lambda"
  let params ← parameters inner false ":"
  expect ":"
  let body ← inner.expression
  return .lambda (← spanFrom start) params body

/-- A conditional expression, a lambda, or a disjunction. -/
def expression : Parser Expr := do
  let start ← here
  if ← isName "lambda" then lambda inner
  else
    let body ← disjunction inner
    if ← acceptName "if" then
      let test ← disjunction inner
      expectName "else"
      let orelse ← inner.expression
      return .conditional (← spanFrom start) test body orelse
    else return body

end Inside

/-- The expression parsers for texts of up to the given number of levels. -/
def inner : Nat → Inner
  | 0 => ⟨fail, fail, fail, fail, fail⟩
  | levels + 1 =>
    let below := inner levels
    ⟨expression below, disjunction below, inversion below, bitOr below, factor below⟩

end CallSites.Source.Grammar
