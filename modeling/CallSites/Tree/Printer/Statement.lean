import CallSites.Tree.Printer.Expression

/-! # Printing statements

Every statement starts a line of its own, so a statement that stands among expressions breaks the
line there.
-/

namespace CallSites.Tree.Printer

/-- The documentation string at the start of a body. -/
def docstring? (v : Value) : Print (Option Value) := do
  match (← attrElements v "body") with
  | [] => return none
  | first :: _ =>
    if first.isKind .exprStmt then
      let value ← attr first "value"
      if value.isKind .constant then
        return if (← attr value "value").codes?.isSome then some value else none
      else return none
    else return none

/-- A documentation string. -/
def writeDocstring (v : Value) : Print Unit := do
  fill ""
  if (v.attr "kind").text? = some "u" then write "u"
  writeSparingly multilineQuotes (← codesOf (← attr v "value"))

/-- The comment after the first line of a statement: the one that belongs to its line, or its
own. -/
def typeComment (v : Value) : Print (Option String) := do
  let line ← asKey (← attr v "lineno")
  match (← get).comments.find? fun (key, _) => key.alike line with
  | some (_, text) => return some (" # type: " ++ text)
  | none =>
    let own ← attr v "type_comment"
    if own.isNull then return none else return some (" # type: " ++ (← shownText own))

section

variable (visit : Value → Print Unit)

/-- A body that may start with a documentation string. -/
def documentedBody (v : Value) : Print Unit := do
  match ← docstring? v with
  | some text =>
    writeDocstring text
    ((← attrElements v "body").drop 1).forM visit
  | none => visit (← attr v "body")

/-- A whole text. -/
def file (v : Value) : Print Unit := do
  let comments ← (← attrElements v "type_ignores").mapM fun ignored => do
    let line ← attr ignored "lineno"
    let tag ← shownText (← attr ignored "tag")
    return (← asKey line, "ignore" ++ tag)
  modify fun out => { out with comments := comments.reverse }
  documentedBody visit v
  modify fun out => { out with comments := [] }

/-- A word with its block. -/
def wordBlock (word : String) (body : Value) : Print Unit := do
  fill word
  block none (visit body)

/-- A word with its block, if there is something in it. -/
def optionalBlock (word : String) (body : Value) : Print Unit := do
  if body.truthy then wordBlock visit word body

/-- The lines of decorators. -/
def decorators (v : Value) : Print Unit := do
  (← attrElements v "decorator_list").forM fun decorator => do
    fill "@"
    visit decorator

/-- A function definition. -/
def functionDefinition (word : String) (v : Value) : Print Unit := do
  breakLine
  decorators visit v
  fill (word ++ " " ++ (← textOf (← attr v "name")))
  enclose "(" ")" do visit (← attr v "args")
  following visit " -> " (← attr v "returns")
  block (← typeComment v) (documentedBody visit v)

/-- A class definition. -/
def classDefinition (v : Value) : Print Unit := do
  breakLine
  decorators visit v
  fill ("class " ++ (← textOf (← attr v "name")))
  let bases ← attr v "bases"
  let needed ← if bases.truthy then pure true else pure (← attr v "keywords").truthy
  parenthesizeIf needed do
    let bases ← elements bases
    commas visit bases
    continued visit (!bases.isEmpty) (← attrElements v "keywords")
  block none (documentedBody visit v)

/-- A loop over the items of something. -/
def forStatement (word : String) (v : Value) : Print Unit := do
  fill word
  let target ← attr v "target"
  ask .tuple target
  visit target
  write " in "
  visit (← attr v "iter")
  block (← typeComment v) do visit (← attr v "body")
  optionalBlock visit "else" (← attr v "orelse")

/-- The only statement of an alternative, if that is a branch again. -/
def onlyBranch? (orelse : Value) : Print (Option Value) := do
  if orelse.truthy then
    match ← elements orelse with
    | [statement] => return if statement.isKind .ifStmt then some statement else none
    | _ => return none
  else return none

/-- A branch from its word on; an alternative that is only a branch goes on with another word. The
number bounds how many of them follow each other. -/
def branch (word : String) : Nat → Value → Print Unit
  | 0, _ => throw .missingAttribute
  | bound + 1, v => do
    fill word
    visit (← attr v "test")
    block none do visit (← attr v "body")
    let orelse ← attr v "orelse"
    match ← onlyBranch? orelse with
    | some other => branch "elif " bound other
    | none => optionalBlock visit "else" orelse

/-- A block with context managers. -/
def withStatement (word : String) (v : Value) : Print Unit := do
  fill word
  commas visit (← attrElements v "items")
  block (← typeComment v) do visit (← attr v "body")

/-- A `try` statement. -/
def tryStatement (isGroup : Bool) (v : Value) : Print Unit := do
  let before := (← get).inGroup
  modify fun out => { out with inGroup := isGroup }
  wordBlock visit "try" (← attr v "body")
  (← attrElements v "handlers").forM visit
  optionalBlock visit "else" (← attr v "orelse")
  optionalBlock visit "finally" (← attr v "finalbody")
  modify fun out => { out with inGroup := before }

/-- A handler of a `try` statement. -/
def handler (v : Value) : Print Unit := do
  fill (if (← get).inGroup then "except*" else "except")
  following visit " " (← attr v "type")
  let name ← attr v "name"
  if name.truthy then
    write " as "
    writeValue name
  block none do visit (← attr v "body")

/-- As many dots as a level says. -/
def levelDots (level : Value) : Print String :=
  match level with
  | .plain _ (.int n) => pure (String.ofList (List.replicate n.toNat '.'))
  | .plain _ (.bool b) => pure (if b then "." else "")
  | v => if v.truthy then throw .wrongType else pure ""

/-- An `import` statement with the package from which is imported. -/
def importFrom (v : Value) : Print Unit := do
  fill "from "
  write (← levelDots (← attr v "level"))
  let module ← attr v "module"
  if module.truthy then writeValue module
  write " import "
  commas visit (← attrElements v "names")

/-- A `raise` statement. -/
def raising (v : Value) : Print Unit := do
  fill "raise"
  let exc ← attr v "exc"
  if exc.truthy then
    write " "
    visit exc
    following visit " from " (← attr v "cause")
  else if (← attr v "cause").truthy then throw .badValue

/-- An annotated assignment; a name that is not simple stands in parentheses. -/
def annotated (v : Value) : Print Unit := do
  fill ""
  let simple ← attr v "simple"
  let enclosed ← if simple.truthy then pure false else pure ((← attr v "target").isKind .name)
  parenthesizeIf enclosed do visit (← attr v "target")
  write ": "
  visit (← attr v "annotation")
  following visit " = " (← attr v "value")

/-- An assignment. -/
def assignment (v : Value) : Print Unit := do
  fill ""
  (← attrElements v "targets").forM fun target => do
    ask .tuple target
    visit target
    write " = "
  visit (← attr v "value")
  if let some text ← typeComment v then write text

/-- The printing step of a kind of statement, or of what belongs to statements. Chains of branches
are followed up to `bound`. -/
def statement? (bound : Nat) (v : Value) : Kind → Option (Print Unit)
  | .file => some (file visit v)
  | .functionType => some do
    enclose "(" ")" do commas visit (← attrElements v "argtypes")
    write " -> "
    visit (← attr v "returns")
  | .exprStmt => some do
    fill ""
    let value ← attr v "value"
    ask .yield value
    visit value
  | .importStmt => some do
    fill "import "
    commas visit (← attrElements v "names")
  | .importFrom => some (importFrom visit v)
  | .assign => some (assignment visit v)
  | .augAssign => some do
    fill ""
    visit (← attr v "target")
    let op ← operator binary? (← attr v "op")
    write (" " ++ op.1 ++ "= ")
    visit (← attr v "value")
  | .annAssign => some (annotated visit v)
  | .returnStmt => some do
    fill "return"
    following visit " " (← attr v "value")
  | .passStmt => some (fill "pass")
  | .breakStmt => some (fill "break")
  | .continueStmt => some (fill "continue")
  | .deleteStmt => some do
    fill "del "
    commas visit (← attrElements v "targets")
  | .assertStmt => some do
    fill "assert "
    visit (← attr v "test")
    following visit ", " (← attr v "msg")
  | .globalStmt => some do
    fill "global "
    commas writeValue (← attrElements v "names")
  | .nonlocalStmt => some do
    fill "nonlocal "
    commas writeValue (← attrElements v "names")
  | .raiseStmt => some (raising visit v)
  | .tryStmt => some (tryStatement visit false v)
  | .tryStar => some (tryStatement visit true v)
  | .exceptHandler => some (handler visit v)
  | .classDef => some (classDefinition visit v)
  | .functionDef => some (functionDefinition visit "def" v)
  | .asyncFunctionDef => some (functionDefinition visit "async def" v)
  | .forStmt => some (forStatement visit "for " v)
  | .asyncFor => some (forStatement visit "async for " v)
  | .ifStmt => some (branch visit "if " bound v)
  | .whileStmt => some do
    fill "while "
    visit (← attr v "test")
    block none do visit (← attr v "body")
    optionalBlock visit "else" (← attr v "orelse")
  | .withStmt => some (withStatement visit "with " v)
  | .asyncWith => some (withStatement visit "async with " v)
  | .matchStmt => some do
    fill "match "
    visit (← attr v "subject")
    block none do (← attrElements v "cases").forM visit
  | .matchCase => some do
    fill "case "
    visit (← attr v "pattern")
    following visit " if " (← attr v "guard")
    block none do visit (← attr v "body")
  | .importAlias => some do
    writeValue (← attr v "name")
    let asName ← attr v "asname"
    if asName.truthy then write (" as " ++ (← textOf asName))
  | .withItem => some do
    visit (← attr v "context_expr")
    following visit " as " (← attr v "optional_vars")
  | _ => none

end

end CallSites.Tree.Printer
