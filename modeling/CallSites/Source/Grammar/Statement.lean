import CallSites.Source.Grammar.Pattern

/-! # Statement grammar

Parsers for statements and whole texts. Blocks lie inside the statements that open them; `block`
reads them up to a number of levels, and every level reads at least one token.
-/

namespace CallSites.Source.Grammar

open CallSites.Source.Parser

/-- Passes over the end of a line. -/
def endLine : Parser Unit := do
  if (← peek) == .newline then skip else fail

section Simple

variable (inner : Inner)

/-- The operators that change their left side. -/
def updates : List (String × BinaryOp) :=
  [("+=", .add), ("-=", .sub), ("*=", .mult), ("@=", .matMult), ("/=", .div), ("%=", .mod),
   ("&=", .bitAnd), ("|=", .bitOr), ("^=", .bitXor), ("<<=", .lShift), (">>=", .rShift),
   ("**=", .pow), ("//=", .floorDiv)]

/-- An assignment from its first target on: every value that another `=` follows is a target. -/
def assignmentRest (start : Pos) (first : Expr) : Parser Stmt := do
  let (targets, value) ← iterate (fun (targets, value) => do
    if ← isSymbol "=" then
      if !value.isTarget then fail
      skip
      return some (targets ++ [value], ← assigned inner)
    else return none) (([], first) : List Expr × Expr)
  return .assign (← spanFrom start) targets value

/-- An annotation from its target on. The target is simple if it is a name without parentheses. -/
def hintRest (start : Pos) (target : Expr) : Parser Stmt := do
  if target.isPlace then
    skip
    let hint ← inner.expression
    let value ← if ← accept "=" then pure (some (← assigned inner)) else pure none
    let simple := target matches .name .. && target.span.start = start
    return .annAssign (← spanFrom start) target hint value simple
  else fail

/-- An expression, an assignment, an update, or an annotation. -/
def expressionStatement : Parser Stmt := do
  let start ← here
  if ← isName "yield" then
    let value ← yielding inner
    if ← isSymbol "=" then fail
    return .expr (← spanFrom start) value
  else
    let first ← expressionList inner
    match ← nextOp? updates with
    | some op =>
      if first.isPlace then
        skip
        let value ← assigned inner
        return .augAssign (← spanFrom start) first op value
      else fail
    | none =>
      if ← isSymbol "=" then assignmentRest inner start first
      else if ← isSymbol ":" then hintRest inner start first
      else return .expr (← spanFrom start) first

/-- Whether a statement ends here. -/
def atEnd : Parser Bool := do
  match ← peek with
  | .newline | .symbol ";" => return true
  | _ => return false

/-- The expressions that a `del` statement deletes. -/
def deletion : Parser Stmt := do
  let start ← here
  expectName "del"
  let (targets, _) ← commaList inner.bitOr moreStarred
  if Expr.areDeletable targets then return .delete (← spanFrom start) targets else fail

/-- Names joined by dots. -/
def dottedText : Parser String := do
  let first ← identifierText
  iterate (fun text => do
    if ← accept "." then return some (text ++ "." ++ (← identifierText)) else return none) first

/-- A name as it is imported, read by `name`. -/
def importedName (name : Parser String) : Parser Alias := do
  let start ← here
  let name ← name
  let asName ← if ← acceptName "as" then pure (some (← identifierText)) else pure none
  return ⟨← spanFrom start, name, asName⟩

/-- An `import` statement. -/
def importStatement : Parser Stmt := do
  let start ← here
  expectName "import"
  let first ← importedName dottedText
  let names ← iterate (fun names => do
    if ← accept "," then return some (names ++ [← importedName dottedText]) else return none)
    [first]
  return .importing (← spanFrom start) names

/-- How many dots lead to the package from which is imported. -/
def leadingDots : Parser Nat :=
  iterate (fun count => do
    if ← accept "." then return some (count + 1)
    else if ← accept "..." then return some (count + 3)
    else return none) 0

/-- What is imported from a package. -/
def importedNames : Parser (List Alias) := do
  let start ← here
  if ← accept "*" then return [⟨← spanFrom start, "*", none⟩]
  else if ← accept "(" then
    let (names, _) ← commaList (importedName identifierText) (return !(← isSymbol ")"))
    expect ")"
    return names
  else
    let first ← importedName identifierText
    iterate (fun names => do
      if ← accept "," then return some (names ++ [← importedName identifierText]) else return none)
      [first]

/-- A `from` statement. -/
def importFromStatement : Parser Stmt := do
  let start ← here
  expectName "from"
  let level ← leadingDots
  let module ← if level != 0 && (← isName "import") then pure none
    else pure (some (← dottedText))
  expectName "import"
  let names ← importedNames
  return .importingFrom (← spanFrom start) module names level

/-- Names of variables separated by commas. -/
def variableNames : Parser (List String) := do
  let first ← identifierText
  iterate (fun names => do
    if ← accept "," then return some (names ++ [← identifierText]) else return none) [first]

/-- A statement that fits on a line together with others. -/
def simpleStatement : Parser Stmt := do
  let start ← here
  match ← peek with
  | .name "return" =>
    skip
    let value ← if ← moreStarred then pure (some (← expressionList inner)) else pure none
    return .returning (← spanFrom start) value
  | .name "import" => importStatement
  | .name "from" => importFromStatement
  | .name "raise" =>
    skip
    if ← atEnd then return .raising (← spanFrom start) none none
    else
      let exc ← inner.expression
      let cause ← if ← acceptName "from" then pure (some (← inner.expression)) else pure none
      return .raising (← spanFrom start) (some exc) cause
  | .name "pass" =>
    skip
    return .pass (← spanFrom start)
  | .name "del" => deletion inner
  | .name "assert" =>
    skip
    let test ← inner.expression
    let msg ← if ← accept "," then pure (some (← inner.expression)) else pure none
    return .assertion (← spanFrom start) test msg
  | .name "break" =>
    skip
    return .break_ (← spanFrom start)
  | .name "continue" =>
    skip
    return .continue_ (← spanFrom start)
  | .name "global" =>
    skip
    let names ← variableNames
    return .global (← spanFrom start) names
  | .name "nonlocal" =>
    skip
    let names ← variableNames
    return .nonlocal (← spanFrom start) names
  | _ => expressionStatement inner

/-- A line of simple statements separated by semicolons. -/
def simpleLine : Parser (List Stmt) := do
  let first ← simpleStatement inner
  let found ← iterate (fun found => do
    if ← accept ";" then
      if (← peek) == .newline then return none
      else return some (found ++ [← simpleStatement inner])
    else return none) [first]
  endLine
  return found

end Simple

section Compound

variable (levels : Nat) (inner : Inner) (block : Parser (List Stmt))

/-- A colon and the block after it. -/
def colonBlock : Parser (List Stmt) := do
  expect ":"
  block

/-- The block after `word`, if it comes next. -/
def optionalBlock (word : String) : Parser (List Stmt) := do
  if ← acceptName word then colonBlock block else return []

/-- The decorators before a definition. -/
def decorators : Parser (List Expr) :=
  iterate (fun found => do
    if ← accept "@" then
      let decorator ← named inner
      endLine
      return some (found ++ [decorator])
    else return none) []

/-- A function definition from `def` on. -/
def functionDefinition (start : Pos) (isAsync : Bool) (found : List Expr) : Parser Stmt := do
  expectName "def"
  let name ← identifierText
  expect "("
  let params ← parameters inner true ")"
  expect ")"
  let returns ← if ← accept "->" then pure (some (← inner.expression)) else pure none
  let body ← colonBlock block
  return .functionDef (← spanFrom start) isAsync name params body found returns

/-- A class definition. -/
def classDefinition (start : Pos) (found : List Expr) : Parser Stmt := do
  expectName "class"
  let name ← identifierText
  let bases ← if ← isSymbol "(" then arguments inner else pure {}
  let body ← colonBlock block
  return .classDef (← spanFrom start) name bases.args bases.keywords body found

/-- A branch with its alternatives. Each further condition is a branch inside the one before, and
all of them end where the last one ends. -/
def branchStatement : Parser Stmt := do
  let start ← here
  expectName "if"
  let test ← named inner
  let body ← colonBlock block
  let others ← iterate (fun others => do
    let start ← here
    if ← acceptName "elif" then
      let test ← named inner
      let body ← colonBlock block
      return some (others ++ [(start, test, body)])
    else return none) ([] : List (Pos × Expr × List Stmt))
  let orelse ← optionalBlock block "else"
  let stop := (← get).last
  let nested := others.foldr (fun (start, test, body) orelse =>
    [.branch (.between start stop) test body orelse]) orelse
  return .branch (.between start stop) test body nested

/-- A loop over the items of something. -/
def forStatement (start : Pos) (isAsync : Bool) : Parser Stmt := do
  expectName "for"
  let target ← targetList inner
  expectName "in"
  let iter ← expressionList inner
  let body ← colonBlock block
  let orelse ← optionalBlock block "else"
  return .forLoop (← spanFrom start) isAsync target iter body orelse

/-- A loop with a condition. -/
def whileStatement : Parser Stmt := do
  let start ← here
  expectName "while"
  let test ← named inner
  let body ← colonBlock block
  let orelse ← optionalBlock block "else"
  return .whileLoop (← spanFrom start) test body orelse

/-- A context manager with or without a target. -/
def withItem : Parser WithItem := do
  let manager ← inner.expression
  if ← acceptName "as" then
    let target ← target inner
    return ⟨manager, some target⟩
  else return ⟨manager, none⟩

/-- Context managers up to the colon, in parentheses or not. -/
def withItems : Parser (List WithItem) := do
  let plain : Parser (List WithItem) := do
    let first ← withItem inner
    iterate (fun items => do
      if ← accept "," then return some (items ++ [← withItem inner]) else return none) [first]
  let grouped : Parser (List WithItem) := do
    expect "("
    let (items, _) ← commaList (withItem inner) (return !(← isSymbol ")"))
    expect ")"
    if ← isSymbol ":" then return items else fail
  if ← isSymbol "(" then grouped <|> plain else plain

/-- A block with context managers. -/
def withStatement (start : Pos) (isAsync : Bool) : Parser Stmt := do
  expectName "with"
  let items ← withItems inner
  let body ← colonBlock block
  return .withBlock (← spanFrom start) isAsync items body

/-- One handler of a `try` statement, and whether it handles groups. -/
def handler : Parser (Handler × Bool) := do
  let start ← here
  expectName "except"
  let isGroup ← accept "*"
  if !isGroup && (← isSymbol ":") then
    let body ← colonBlock block
    return (.mk (← spanFrom start) none none body, isGroup)
  else
    let type ← inner.expression
    let name ← if ← acceptName "as" then pure (some (← identifierText)) else pure none
    let body ← colonBlock block
    return (.mk (← spanFrom start) (some type) name body, isGroup)

/-- A `try` statement. Its handlers are all of one kind; without any a final block is needed, and
only with some may there be another one before it. -/
def tryStatement : Parser Stmt := do
  let start ← here
  expectName "try"
  let body ← colonBlock block
  let handlers ← iterate (fun handlers => do
    if ← isName "except" then
      let (found, isGroup) ← handler inner block
      match handlers with
      | (_, other) :: _ =>
        if other = isGroup then return some (handlers ++ [(found, isGroup)]) else fail
      | [] => return some [(found, isGroup)]
    else return none) ([] : List (Handler × Bool))
  let orelse ← if handlers.isEmpty then pure [] else optionalBlock block "else"
  if handlers.isEmpty && !(← isName "finally") then fail
  let finalbody ← optionalBlock block "finally"
  return .tryBlock (← spanFrom start) (handlers.any Prod.snd) body (handlers.map Prod.fst) orelse
    finalbody

/-- What a `match` statement looks at. -/
def matchSubject : Parser Expr := do
  let start ← here
  let first ← displayItem inner
  if ← isSymbol "," then
    let (items, _) ← commaRest (displayItem inner) moreStarred first
    return .tuple (← spanFrom start) items
  else if first matches .starred .. then fail
  else return first

/-- One case of a `match` statement. -/
def matchCase : Parser Case := do
  expectName "case"
  let pattern ← casePattern levels
  let guard ← if ← acceptName "if" then pure (some (← named inner)) else pure none
  let body ← colonBlock block
  return .mk pattern guard body

/-- A `match` statement. -/
def matchStatement : Parser Stmt := do
  let start ← here
  expectName "match"
  let subject ← matchSubject inner
  expect ":"
  endLine
  if (← peek) == .indent then skip else fail
  let first ← matchCase levels inner block
  let cases ← iterate (fun cases => do
    if (← peek) == .dedent then return none
    else return some (cases ++ [← matchCase levels inner block])) [first]
  if (← peek) == .dedent then skip else fail
  return .matching (← spanFrom start) subject cases

/-- A definition with its decorators. -/
def decorated : Parser Stmt := do
  let found ← decorators inner
  let start ← here
  match ← peek with
  | .name "class" => classDefinition inner block start found
  | .name "async" =>
    skip
    functionDefinition inner block start true found
  | _ => functionDefinition inner block start false found

/-- A statement that `async` introduces. -/
def asyncStatement : Parser Stmt := do
  let start ← here
  expectName "async"
  match ← peek with
  | .name "with" => withStatement inner block start true
  | .name "for" => forStatement inner block start true
  | _ => functionDefinition inner block start true []

/-- A statement, or a line of simple ones. -/
def statement : Parser (List Stmt) := do
  let start ← here
  match ← peek with
  | .symbol "@" => return [← decorated inner block]
  | .name "def" => return [← functionDefinition inner block start false []]
  | .name "class" => return [← classDefinition inner block start []]
  | .name "if" => return [← branchStatement inner block]
  | .name "for" => return [← forStatement inner block start false]
  | .name "while" => return [← whileStatement inner block]
  | .name "with" => return [← withStatement inner block start false]
  | .name "try" => return [← tryStatement inner block]
  | .name "async" => return [← asyncStatement inner block]
  | .name "match" =>
    (do return [← matchStatement levels inner block]) <|> simpleLine inner
  | _ => simpleLine inner

/-- Statements up to the word that ends them. -/
def statementsUntil (last : Word) : Parser (List Stmt) :=
  iterate (fun found => do
    if (← peek) == last then return none
    else return some (found ++ (← statement levels inner block))) []

/-- A block: statements on the same line, or an indented block. -/
def blockBody : Parser (List Stmt) := do
  if (← peek) == .newline then
    skip
    if (← peek) == .indent then
      skip
      let first ← statement levels inner block
      let rest ← statementsUntil levels inner block .dedent
      if (← peek) == .dedent then skip else fail
      return first ++ rest
    else fail
  else simpleLine inner

end Compound

/-- The block parser for texts of up to the given number of levels. -/
def block (levels : Nat) (inner : Inner) : Nat → Parser (List Stmt)
  | 0 => fail
  | bound + 1 => blockBody levels inner (block levels inner bound)

/-- The statements of a whole text of up to the given number of levels. -/
def file (levels : Nat) : Parser (List Stmt) := do
  let inner := inner levels
  let found ← statementsUntil levels inner (block levels inner levels) .finish
  if (← peek) == .finish then return found else fail

/-- A text that is one expression. -/
def soleExpression (levels : Nat) : Parser Expr := do
  let value ← expressionList (inner levels)
  iterate (fun (_ : Unit) => do
    if (← peek) == .newline then do skip; return some () else return none) ()
  if (← peek) == .finish then return value else fail

end CallSites.Source.Grammar
