import CallSites.Source.Grammar.Expression
import CallSites.Source.Stmt

/-! # Pattern grammar

Parsers for the patterns of `match` statements. As with expressions, what lies inside brackets is
read one level further in.
-/

namespace CallSites.Source.Grammar

open CallSites.Source.Parser

/-- Whether a literal is an imaginary number. -/
def isImaginary : Expr → Bool
  | .constant _ (.imaginary _) => true
  | .unary _ _ (.constant _ (.imaginary _)) => true
  | _ => false

/-- A number without a sign. -/
def unsignedNumber : Parser Expr := do
  let start ← here
  match ← peek with
  | .literal literal =>
    skip
    return .constant (← spanFrom start) literal
  | _ => fail

/-- A number with or without a minus. -/
def signedNumber : Parser Expr := do
  let start ← here
  if ← accept "-" then
    let number ← unsignedNumber
    return .unary (← spanFrom start) .minus number
  else unsignedNumber

/-- A number, or the sum or difference of a real and an imaginary one. -/
def numberPattern : Parser Expr := do
  let start ← here
  let real ← signedNumber
  match ← nextOp? [("+", BinaryOp.add), ("-", .sub)] with
  | some op =>
    if isImaginary real then fail
    skip
    let imaginary ← unsignedNumber
    if isImaginary imaginary then return .binary (← spanFrom start) real op imaginary else fail
  | none => return real

/-- Whether a number comes next. -/
def startsNumber : Parser Bool := do
  match ← peek with
  | .literal _ | .symbol "-" => return true
  | _ => return false

/-- The literal of a keyword, if it has one. -/
def keywordLiteral? : String → Option Literal
  | "None" => some .none
  | "True" => some (.bool true)
  | "False" => some (.bool false)
  | _ => none

/-- A name with the members that follow it. -/
def dottedName : Parser Expr := do
  let start ← here
  let id ← identifier
  let first := Expr.name (← spanFrom start) id
  iterate (fun value => do
    if ← accept "." then
      let attr ← identifierText
      return some (.member (← spanFrom start) value attr)
    else return none) first

/-- A name to which a match is bound. -/
def captureName : Parser String := do
  if ← isName "_" then fail
  let name ← identifierText
  match ← peek with
  | .symbol text => if [".", "(", "="].contains text then fail else return name
  | _ => return name

/-- A star with the name for the rest of a sequence. -/
def starPattern : Parser Pattern := do
  let start ← here
  expect "*"
  if ← acceptName "_" then return .star (← spanFrom start) none
  else
    let name ← captureName
    return .star (← spanFrom start) (some name)

section Inside

variable (deeper : Parser Pattern)

/-- An item of a sequence. -/
def sequenceItem : Parser Pattern := do
  if ← isSymbol "*" then starPattern else deeper

/-- A group, or a sequence in parentheses. -/
def parenthesizedPattern : Parser Pattern := do
  let start ← here
  expect "("
  if ← accept ")" then return .sequence (← spanFrom start) []
  else
    let first ← sequenceItem deeper
    let (items, comma) ← commaRest (sequenceItem deeper) (return !(← isSymbol ")")) first
    if !comma && first matches .star .. then fail
    expect ")"
    if comma = true then return .sequence (← spanFrom start) items else return first

/-- A sequence in brackets. -/
def bracketedPattern : Parser Pattern := do
  let start ← here
  expect "["
  if ← accept "]" then return .sequence (← spanFrom start) []
  else
    let (items, _) ← commaList (sequenceItem deeper) (return !(← isSymbol "]"))
    expect "]"
    return .sequence (← spanFrom start) items

/-- A key of a mapping: a literal or a dotted name. -/
def mappingKey : Parser Expr := do
  let start ← here
  if ← startsNumber then numberPattern
  else match ← peek with
    | .string _ => strings
    | .name text =>
      match keywordLiteral? text with
      | some literal =>
        skip
        return .constant (← spanFrom start) literal
      | none =>
        let key ← dottedName
        if key matches .member .. then return key else fail
    | _ => fail

/-- What was read of a mapping. -/
structure Mapping where
  keys : List Expr := []
  patterns : List Pattern := []
  rest : Option String := none
  goesOn : Bool := true

/-- A mapping. -/
def mappingPattern : Parser Pattern := do
  let start ← here
  expect "\x7b"
  let found ← iterate (fun found => do
    if found.goesOn = false then return none
    else if ← isSymbol "\x7d" then return none
    else if ← accept "**" then
      let name ← captureName
      let _ ← accept ","
      return some { found with rest := some name, goesOn := false }
    else
      let key ← mappingKey
      expect ":"
      let pattern ← deeper
      return some { found with
        keys := found.keys ++ [key], patterns := found.patterns ++ [pattern],
        goesOn := ← accept "," }) ({} : Mapping)
  expect "\x7d"
  return .mapping (← spanFrom start) found.keys found.patterns found.rest

/-- What was read of the arguments of a class pattern. -/
structure ClassArguments where
  patterns : List Pattern := []
  attrs : List String := []
  attrPatterns : List Pattern := []
  goesOn : Bool := true

/-- The arguments of a class pattern; those with a keyword come last. -/
def classArguments : Parser ClassArguments := do
  expect "("
  let found ← iterate (fun (found : ClassArguments) => do
    if found.goesOn = false then return none
    else if ← isSymbol ")" then return none
    else match ← peek, ← peekSecond with
      | .name _, .symbol "=" =>
        let attr ← identifierText
        skip
        let pattern ← deeper
        return some { found with
          attrs := found.attrs ++ [attr], attrPatterns := found.attrPatterns ++ [pattern],
          goesOn := ← accept "," }
      | _, _ =>
        if found.attrs.isEmpty then
          let pattern ← deeper
          return some { found with
            patterns := found.patterns ++ [pattern], goesOn := ← accept "," }
        else fail) ({} : ClassArguments)
  expect ")"
  return found

/-- A pattern that starts with a name: a capture, a value, or a class. -/
def namePattern : Parser Pattern := do
  let start ← here
  let name ← dottedName
  if ← isSymbol "(" then
    let found ← classArguments deeper
    return .instance_ (← spanFrom start) name found.patterns found.attrs found.attrPatterns
  else if ← isSymbol "=" then fail
  else match name with
    | .name span id => return .capture span none (some id.name)
    | value => return .value (← spanFrom start) value

/-- A pattern without an alternative. -/
def closedPattern : Parser Pattern := do
  let start ← here
  if ← startsNumber then
    let number ← numberPattern
    return .value (← spanFrom start) number
  else match ← peek with
    | .string _ =>
      let text ← strings
      return .value (← spanFrom start) text
    | .name "_" =>
      skip
      return .capture (← spanFrom start) none none
    | .name text =>
      match keywordLiteral? text with
      | some literal =>
        skip
        return .singleton (← spanFrom start) literal
      | none => namePattern deeper
    | .symbol "(" => parenthesizedPattern deeper
    | .symbol "[" => bracketedPattern deeper
    | .symbol "\x7b" => mappingPattern deeper
    | _ => fail

/-- Alternatives, with or without a name for the match. -/
def pattern : Parser Pattern := do
  let start ← here
  let first ← closedPattern deeper
  let found ← iterate (fun found => do
    if ← accept "|" then return some (found ++ [← closedPattern deeper]) else return none) [first]
  let span ← spanFrom start
  let either := match found with
    | [single] => single
    | found => .either span found
  if ← acceptName "as" then
    let name ← captureName
    return .capture (← spanFrom start) (some either) (some name)
  else return either

end Inside

/-- The pattern parser for texts of up to the given number of levels. -/
def patternWithin : Nat → Parser Pattern
  | 0 => fail
  | levels + 1 => pattern (patternWithin levels)

/-- The pattern of a case: one pattern, or a sequence without brackets. -/
def casePattern (levels : Nat) : Parser Pattern := do
  let start ← here
  let item := sequenceItem (patternWithin levels)
  let first ← item
  let (items, comma) ← commaRest item
    (return !((← isSymbol ":") || (← isName "if"))) first
  if comma = true then return .sequence (← spanFrom start) items
  else if first matches .star .. then fail
  else return first

end CallSites.Source.Grammar
