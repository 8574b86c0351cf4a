import CallSites.Tree.Printer.Quote

/-! # Printing expressions

One printing step for each kind of expression and for what belongs to expressions. The steps are
given `visit`, which prints a part, and the parts of formatted strings are printed by `part`.
-/

namespace CallSites.Tree.Printer

/-- A constant: numbers that are not finite are written as arithmetic. -/
def writeConstant (v : Value) : Print Unit := do
  match v with
  | .plain _ (.float x) => write (x.written .literal)
  | .plain _ (.complex re im) => write (Double.writtenComplex .literal re im)
  | .plain _ (.str s) =>
    if (← get).plainQuotes then writeSparingly allQuotes (Text.codes s) else write (Text.quoted s)
  | .plain _ (.surrogates s) =>
    if (← get).plainQuotes then writeSparingly allQuotes s.codes
    else write (Text.quotedCodes s.codes)
  | _ => if v.isTooLong then throw .badValue else write v.displayItem

/-- Whether an attribute of the value needs a blank before its dot, as whole numbers do. -/
def needsBlank (v : Value) : Bool :=
  v.isKind .constant && match (v.attr "value").plain? with
    | some (.int _) | some (.bool _) => true
    | _ => false

/-- A value as a whole number. -/
def wholeNumber (v : Value) : Print Int :=
  match v.plain? with
  | some (.int n) => pure n
  | some (.bool b) => pure (if b then 1 else 0)
  | _ => throw .wrongType

/-- The code point that a conversion stands for. -/
def conversionCode (v : Value) : Print Nat := do
  let code ← wholeNumber v
  if code < -2147483648 || 2147483647 < code then throw .tooLarge
  else if code < 0 || 0x10ffff < code then throw .badValue
  else return code.toNat

/-- Two values one after the other, which have to be of one type of sequence. -/
def concatenation (first second : Value) : Print (List Value) := do
  if first.typeName = second.typeName then return (← elements first) ++ (← elements second)
  else throw .wrongType

section

variable (visit part : Value → Print Unit)

/-- A value after a text, if there is a value. -/
def following (before : String) (v : Value) : Print Unit := do
  if v.truthy then
    write before
    visit v

/-- `name` with its hint. -/
def parameter (v : Value) : Print Unit := do
  writeValue (← attr v "arg")
  following visit ": " (← attr v "annotation")

/-- The parameters that may be given by position, with their defaults. Says whether there were
any. -/
def positionalParameters (v : Value) : Print Bool := do
  let positional ← attr v "posonlyargs"
  let all ← concatenation positional (← attr v "args")
  let defaults ← listItems (← attr v "defaults")
  let slash := (← elements positional).length
  let padded := List.replicate (all.length - defaults.length) Value.null ++ defaults
  ((all.zip padded).zipIdx 1).forM fun ((param, default), index) => do
    writeIf (index != 1) ", "
    visit param
    following visit "=" default
    writeIf (index == slash) ", /"
  return !all.isEmpty

/-- The parameter that takes all further positions, or a bare `*` before parameters that are given
by keyword only. Says whether there were any parameters so far. -/
def starParameter (any : Bool) (v : Value) : Print Bool := do
  let rest ← attr v "vararg"
  if rest.truthy || (← attr v "kwonlyargs").truthy then
    writeIf any ", "
    write "*"
    if rest.truthy then parameter visit rest
    return true
  else return any

/-- The parameters that are given by keyword only. -/
def keywordParameters (v : Value) : Print Unit := do
  let keywords ← attr v "kwonlyargs"
  if keywords.truthy then
    let keywords ← elements keywords
    let defaults ← attrElements v "kw_defaults"
    (keywords.zip defaults).forM fun (param, default) => do
      write ", "
      visit param
      following visit "=" default

/-- A parameter list. -/
def parameters (v : Value) : Print Unit := do
  let any ← positionalParameters visit v
  let any ← starParameter visit any v
  keywordParameters visit v
  let others ← attr v "kwarg"
  if others.truthy then
    writeIf any ", "
    write ("**" ++ (← textOf (← attr others "arg")))
    following visit ": " (← attr others "annotation")

/-- A function without a name. -/
def lambdaExpression (v : Value) : Print Unit :=
  atLevel .test v do
    write "lambda"
    let params ← attr v "args"
    let pieces ← buffered (visit params)
    writeIf (!pieces.isEmpty) " "
    modify fun out => { out with pieces := pieces.reverse ++ out.pieces }
    write ": "
    let body ← attr v "body"
    ask .test body
    visit body

/-- A clause of a comprehension. -/
def clause (v : Value) : Print Unit := do
  write (if (← attr v "is_async").truthy then " async for " else " for ")
  let target ← attr v "target"
  ask .tuple target
  visit target
  write " in "
  let iter ← attr v "iter"
  let conditions ← attrElements v "ifs"
  (iter :: conditions).forM (ask Level.test.next)
  visit iter
  conditions.forM fun condition => do
    write " if "
    visit condition

/-- The clauses of a comprehension. -/
def clauses (v : Value) : Print Unit := do (← attrElements v "generators").forM visit

/-- An entry of a dictionary; one without a key is unpacked. -/
def entry (key value : Value) : Print Unit := do
  if key.isNull then
    write "**"
    ask .bitOr value
    visit value
  else
    visit key
    write ": "
    visit value

/-- The entries of a dictionary. -/
def entries : Bool → List Value → List Value → Print Unit
  | later, key :: keys, value :: values => do
    writeIf later ", "
    entry visit key value
    entries true keys values
  | _, _, _ => pure ()

/-- The operands of a comparison after the first, with the operators before them. -/
def chain : List Value → List Value → Print Unit
  | op :: ops, operand :: operands => do
    write (" " ++ (← operator comparison? op) ++ " ")
    visit operand
    chain ops operands
  | _, _ => pure ()

/-- The operands of a boolean operator: each one has to bind tighter than the one before. -/
def rising (separator : String) : Level → Bool → List Value → Print Unit
  | _, _, [] => pure ()
  | level, later, operand :: rest => do
    writeIf later separator
    ask level.next operand
    visit operand
    rising separator level.next true rest

/-- A keyword and an operand that binds like an atom, which may be missing. -/
def keywordOperand (word : String) (v : Value) : Print Unit := do
  write word
  let operand ← attr v "value"
  if operand.truthy then
    write " "
    ask .atom operand
    visit operand

/-- The items of a list that goes on, if `later` says so, after other items. -/
def continued (later : Bool) (items : List Value) : Print Unit := do
  writeIf (later && !items.isEmpty) ", "
  commas visit items

/-- A call. -/
def call (v : Value) : Print Unit := do
  let func ← attr v "func"
  ask .atom func
  visit func
  enclose "(" ")" do
    let args ← attrElements v "args"
    commas visit args
    continued visit (!args.isEmpty) (← attrElements v "keywords")

/-- A subscript; the parentheses of a tuple are left out unless it is empty. -/
def subscript (v : Value) : Print Unit := do
  let value ← attr v "value"
  ask .atom value
  visit value
  enclose "[" "]" do
    let index ← attr v "slice"
    if index.isKind .tuple then
      let items ← attr index "elts"
      if items.truthy then tupleItems visit (← elements items) else visit index
    else visit index

/-- The code points of what stands in a replacement field, as a text of its own. -/
def innerCodes (inner : Value) : Print (List Nat) := do
  let outer ← get
  set { plainQuotes := true : Output }
  ask Level.test.next inner
  visit inner
  let codes ← joinedCodes (← get).pieces.reverse
  set outer
  return codes

/-- A conversion, unless there is none. -/
def writeConversion (conversion : Value) : Print Unit := do
  if !conversion.plain?.any fun content => content.alike (.int (-1)) then
    writeCodes ['!'.toNat, ← conversionCode conversion]

/-- A replacement field of a formatted string. What it holds cannot hold a backslash. -/
def replacement (v : Value) : Print Unit :=
  enclose "\x7b" "\x7d" do
    let codes ← innerCodes visit (← attr v "value")
    require (!codes.contains '\\'.toNat)
    writeIf (codes.head? == some '\x7b'.toNat) " "
    writeCodes codes
    writeConversion (← attr v "conversion")
    let format ← attr v "format_spec"
    if format.truthy then
      write ":"
      part format

/-- A part of a formatted string: text, a replacement field, or again such parts. -/
def formattedPart (v : Value) : Print Unit := do
  match v.kind? with
  | some .joinedStr => (← attrElements v "values").forM part
  | some .constant =>
    match (← attr v "value").codes? with
    | some codes =>
      writeCodes (codes.flatMap fun code =>
        if code = '\x7b'.toNat ∨ code = '\x7d'.toNat then [code, code] else [code])
    | none => throw .badValue
  | some .formattedValue => replacement visit part v
  | _ => throw .badValue

/-- A formatted string. -/
def formatted (v : Value) : Print Unit := do
  write "f"
  if (← get).plainQuotes then
    writeSparingly allQuotes (← joinedCodes (← buffered (part v)))
  else
    let parts ← (← attrElements v "values").mapM fun value => do
      return (← joinedCodes (← buffered (part value)), value.isKind .constant)
    writeFormatted parts

/-- A tuple, in parentheses if it is empty or its place asks for more. -/
def tuple (v : Value) : Print Unit := do
  let items ← elements (← attr v "elts")
  let required ← asked v
  parenthesizeIf (items.isEmpty || decide (Level.tuple < required)) (tupleItems visit items)

/-- A slice. -/
def slice (v : Value) : Print Unit := do
  following visit "" (← attr v "lower")
  write ":"
  following visit "" (← attr v "upper")
  following visit ":" (← attr v "step")

/-- The name of a keyword argument, or `**` if it has none. -/
def keywordName (name : Value) : Print Unit := do
  if name.isNull then write "**"
  else
    writeValue name
    write "="

/-- The printing step of a kind of expression, or of what belongs to expressions. -/
def expression? (v : Value) : Kind → Option (Print Unit)
  | .name => some do writeValue (← attr v "id")
  | .constant => some do
    let value ← attr v "value"
    if value.plain? = some .ellipsis then write "..."
    else
      writeIf ((v.attr "kind").text? == some "u") "u"
      writeConstant value
  | .attributeRef => some do
    let value ← attr v "value"
    ask .atom value
    visit value
    writeIf (needsBlank value) " "
    write "."
    writeValue (← attr v "attr")
  | .subscript => some (subscript visit v)
  | .call => some (call visit v)
  | .keyword => some do
    keywordName (← attr v "arg")
    visit (← attr v "value")
  | .starred => some do
    write "*"
    let value ← attr v "value"
    ask .bitOr value
    visit value
  | .list => some (enclose "[" "]" do commas visit (← attrElements v "elts"))
  | .tuple => some (tuple visit v)
  | .set => some do
    let items ← attr v "elts"
    if items.truthy then enclose "\x7b" "\x7d" do commas visit (← elements items)
    else write "\x7b*()\x7d"
  | .dict => some (enclose "\x7b" "\x7d" do
    let keys ← attr v "keys"
    let values ← attr v "values"
    entries visit false (← elements keys) (← elements values))
  | .binOp => some do
    let op ← operator binary? (← attr v "op")
    atLevel op.2 v do
      let left ← attr v "left"
      ask (operandLevels op).1 left
      visit left
      write (" " ++ op.1 ++ " ")
      let right ← attr v "right"
      ask (operandLevels op).2 right
      visit right
  | .unaryOp => some do
    let (text, level) ← operator unary? (← attr v "op")
    atLevel level v do
      write text
      let operand ← attr v "operand"
      ask level operand
      visit operand
  | .boolOp => some do
    let (text, level) ← operator boolean? (← attr v "op")
    atLevel level v do
      rising visit (" " ++ text ++ " ") level false (← attrElements v "values")
  | .compare => some (atLevel .compare v do
    let left ← attr v "left"
    let operands ← attrElements v "comparators"
    (left :: operands).forM (ask Level.compare.next)
    visit left
    chain visit (← attrElements v "ops") operands)
  | .ifExp => some (atLevel .test v do
    let body ← attr v "body"
    let test ← attr v "test"
    ask Level.test.next body
    ask Level.test.next test
    visit body
    write " if "
    visit test
    write " else "
    let orelse ← attr v "orelse"
    ask .test orelse
    visit orelse)
  | .lambda => some (lambdaExpression visit v)
  | .namedExpr => some (atLevel .named v do
    let target ← attr v "target"
    let value ← attr v "value"
    ask .atom target
    ask .atom value
    visit target
    write " := "
    visit value)
  | .await => some (atLevel .await v (keywordOperand visit "await" v))
  | .yield => some (atLevel .yield v (keywordOperand visit "yield" v))
  | .yieldFrom => some (atLevel .yield v do
    write "yield from "
    let value ← attr v "value"
    require value.truthy
    ask .atom value
    visit value)
  | .slice => some (slice visit v)
  | .listComp => some (enclose "[" "]" do
    visit (← attr v "elt")
    clauses visit v)
  | .setComp => some (enclose "\x7b" "\x7d" do
    visit (← attr v "elt")
    clauses visit v)
  | .generatorExp => some (enclose "(" ")" do
    visit (← attr v "elt")
    clauses visit v)
  | .dictComp => some (enclose "\x7b" "\x7d" do
    visit (← attr v "key")
    write ": "
    visit (← attr v "value")
    clauses visit v)
  | .comprehension => some (clause visit v)
  | .joinedStr => some (formatted part v)
  | .formattedValue => some (replacement visit part v)
  | .arguments => some (parameters visit v)
  | .arg => some (parameter visit v)
  | _ => none

end

end CallSites.Tree.Printer
