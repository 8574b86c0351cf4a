import CallSites.Source.Blame.Rules.Expression
import CallSites.Source.Blame.Rules.Mistake
import CallSites.Source.Blame.Rules.Parameter
import CallSites.Source.Blame.Rules.Pattern
import CallSites.Source.Token
import Std.Data.HashMap

/-! # Reading a text by the rules

`read` tries phrases on the tokens of a text. Tokens are looked at one by one, and it matters which
was the last: some mistakes are blamed on it. What a rule read at a place is remembered.
-/

namespace CallSites.Source.Blame

/-- The alternatives of a rule. -/
def Rule.alternatives : Rule → List Alternative
  | .param ofLambda rule => paramRules ofLambda rule
  | rule =>
    match expressionRules rule with
    | [] =>
      match statementRules rule with
      | [] =>
        match patternRules rule with
        | [] =>
          match expressionMistakes rule with
          | [] => statementMistakes rule
          | found => found
        | found => found
      | found => found
    | found => found

/-- Whether what a rule read while mistakes were not looked for also counts while they are. -/
def Rule.isShared : Rule → Bool
  | .simpleStatement | .block | .dottedName | .closedPattern | .starPattern | .dotted | .expression
  | .starExpression | .disjunction | .inversion | .bitOr | .factor | .awaited | .primary
  | .arguments | .starTarget | .starAtomTarget | .targetPrimary | .delTarget | .badNamed => true
  | _ => false

/-- The tokens of a text, and how many brackets are open after each of them. -/
structure Text where
  tokens : Array Token
  depths : Array Nat

namespace Text

/-- How many brackets are open after a word. -/
def depthAfter (depth : Nat) : Word → Nat
  | .symbol "(" | .symbol "[" | .symbol "\x7b" => depth + 1
  | .symbol ")" | .symbol "]" | .symbol "\x7d" => depth - 1
  | _ => depth

/-- A text from its tokens. -/
def ofTokens (tokens : List Token) : Text :=
  let (depths, _) := tokens.foldl (fun (depths, depth) token =>
    let depth := depthAfter depth token.word
    (depths.push depth, depth)) ((#[], 0) : Array Nat × Nat)
  ⟨tokens.toArray, depths⟩

/-- The row in which a token starts. -/
def row (text : Text) (index : Nat) : Nat := (text.tokens[index]?.map fun t => t.start.row).getD 0

end Text

/-- Why reading stops. -/
inductive Stop where
  /-- The text does not fit here. -/
  | mismatch
  /-- The text does not fit here, and no other alternative is to be tried. -/
  | deadEnd
  /-- The text cannot be split into tokens; the row is to blame. -/
  | broken (row : Nat)
  /-- A mistake was found; the row is to blame. -/
  | mistake (row : Nat)
deriving DecidableEq, Repr

/-- A place where a rule was tried. -/
structure Attempt where
  rule : Rule
  position : Nat
  searching : Bool
deriving DecidableEq, Hashable, Repr

/-- How far the reading of a text has come. -/
structure State where
  /-- The index of the next token. -/
  position : Nat := 0
  /-- How many tokens have been looked at. -/
  seen : Nat := 0
  /-- Whether mistakes are looked for. -/
  searching : Bool := false
  /-- What was read before: nothing, or a shape and the position after it. -/
  memory : Std.HashMap Attempt (Option (Shape × Nat)) := {}

/-- A step of reading. -/
abbrev Reading := EStateM Stop State

/-- Goes to a position. -/
def moveTo (position : Nat) : Reading Unit := modify fun state => { state with position }

section

variable (text : Text)

/-- The row of the last token that was looked at. -/
def lastRow : Reading Nat := return text.row ((← get).seen - 1)

/-- Looks at the next token. -/
def look : Reading Token := do
  let position := (← get).position
  modify fun state => { state with seen := max state.seen (position + 1) }
  match text.tokens[position]? with
  | none => throw .mismatch
  | some token =>
    match token.word with
    | .broken why => throw (.broken why.row)
    | _ => return token

/-- Passes over the next token if its word fits. -/
def accept (fits : Word → Bool) : Reading Token := do
  let token ← look text
  if fits token.word then
    modify fun state => { state with position := state.position + 1 }
    return token
  else throw .mismatch

/-- Whether a word is spelled so. -/
def spells (spelling : String) : Word → Bool
  | .name text | .symbol text => text == spelling
  | _ => false

/-- The words that have a meaning in some places only. -/
def softWords : List String := ["_", "case", "match"]

/-- Whether a word starts one of those with a meaning in some places only. -/
def startsSoftWord : Word → Bool
  | .name text => isFree text && softWords.any fun word => text.toList.isPrefixOf word.toList
  | _ => false

/-- A token as a word of its own. -/
def asToken (fits : Word → Bool) : Reading Shape := do
  return .token (← accept text fits).start.row

/-- An identifier. -/
def readName (fits : String → Bool) : Reading Shape := do
  let token ← accept text fun
    | .name name => isFree name && fits name
    | _ => false
  match token.word with
  | .name name => return .name token.start.row name
  | _ => return .token token.start.row

/-- A number; one with too many digits is a mistake, and so is one that `fits` rejects. -/
def readNumber (fits : Literal → Bool) : Reading Shape := do
  let token ← accept text fun
    | .literal _ | .oversized => true
    | _ => false
  let row := token.start.row
  match token.word with
  | .literal literal => if fits literal then return .value row else throw (.mistake row)
  | _ => throw (.mistake row)

/-- Whether a literal is an imaginary number. -/
def isImaginary : Literal → Bool
  | .imaginary _ => true
  | _ => false

/-- The string literals that follow each other, at most as many as given, with their rows. -/
def stringParts : Nat → Reading (List (Nat × StringPart))
  | 0 => return []
  | bound + 1 => do
    let token ← look text
    match token.word with
    | .string part =>
      moveTo ((← get).position + 1)
      return (token.start.row, part) :: (← stringParts bound)
    | _ => return []

/-- Checks string literals that are joined: none may be malformed, and all of them are text or all
of them are bytes. A formatted string is only read after that check. -/
def checkParts : Option Bool → List (Nat × StringPart) → Reading Unit
  | _, [] => return ()
  | areBytes, (row, part) :: rest => do
    let isBytes ← match part with
      | .text .. | .formatted .. | .misformatted _ => pure false
      | .bytes _ => pure true
      | .malformed => throw (.mistake (← lastRow text))
      | .foreign => throw (.mistake row)
    if !areBytes.all (· == isBytes) then throw (.mistake (← lastRow text))
    if let .misformatted row := part then throw (.mistake (row.getD (← lastRow text)))
    checkParts (some isBytes) rest

/-- Adjacent string literals. -/
def readStrings : Reading Shape := do
  match ← stringParts text text.tokens.size with
  | [] => throw .mismatch
  | (row, part) :: rest =>
    checkParts text none ((row, part) :: rest)
    return .value row

end

/-- Tries steps one after the other, all from the same position. -/
def firstOf {α : Type} (step : α → Reading Shape) : List α → Reading Shape
  | [] => throw .mismatch
  | option :: rest => do
    let position := (← get).position
    try step option
    catch
      | .mismatch =>
        moveTo position
        firstOf step rest
      | .deadEnd => throw .mismatch
      | stop => throw stop

/-- A step, or nothing if it does not fit. -/
def optionally (step : Reading Shape) : Reading (Option Shape) := do
  let position := (← get).position
  try return some (← step)
  catch
    | .mismatch | .deadEnd =>
      moveTo position
      return none
    | stop => throw stop

/-- Repeats a step as long as it fits, at most as often as given. -/
def repeatedly (step : Reading Shape) : Nat → Reading (List Shape)
  | 0 => return []
  | bound + 1 => do
    match ← optionally step with
    | some shape => return shape :: (← repeatedly step bound)
    | none => return []

/-- Reads phrases one after the other. -/
def inSequence (step : Phrase → Reading Shape) : List Phrase → Reading (List Shape)
  | [] => return []
  | .cut :: rest => do
    try return .absent :: (← inSequence step rest)
    catch
      | .mismatch => throw .deadEnd
      | stop => throw stop
  | phrase :: rest => do
    let shape ← step phrase
    return shape :: (← inSequence step rest)

/-- Runs a step while mistakes are not looked for. -/
def quietly (step : Reading Shape) : Reading Shape := do
  let searching := (← get).searching
  modify fun state => { state with searching := false }
  try
    let shape ← step
    modify fun state => { state with searching }
    return shape
  catch stop =>
    modify fun state => { state with searching }
    throw stop

/-- Runs a step for a rule unless the rule was tried at this position before. -/
def remembered (rule : Rule) (step : Reading Shape) : Reading Shape := do
  let position := (← get).position
  let attempt : Attempt := ⟨rule, position, (← get).searching && !rule.isShared⟩
  match (← get).memory[attempt]? with
  | some (some (shape, after)) =>
    moveTo after
    return shape
  | some none => throw .mismatch
  | none =>
    match ← optionally step with
    | some shape =>
      modify fun state =>
        { state with memory := state.memory.insert attempt (some (shape, state.position)) }
      return shape
    | none =>
      modify fun state => { state with memory := state.memory.insert attempt none }
      throw .mismatch

/-- The shape of an alternative that starts in the given row. -/
def Form.shape (form : Form) (row : Nat) (shapes : List Shape) : Shape :=
  match form with
  | .plain =>
    match shapes with
    | [shape] => shape
    | _ => .value row
  | .part index => shapes.getD index .absent
  | .parts => .parts shapes
  | .token => .token row
  | .value => .value row
  | .chain =>
    match shapes with
    | first :: rest => if (Shape.firstRow? rest).isNone then first else .value row
    | [] => .value row
  | .trailed =>
    match shapes with
    | [first, .parts []] => first
    | [_, .parts items] => if items.getLast? matches some (.place _) then .place row else .value row
    | _ => .value row
  | .sole =>
    match shapes with
    | [.parts [item]] => item
    | _ => .value row
  | .place => .place row
  | .starred => .starred row (shapes.getD 1 .absent)
  | .display => .display row (Shape.allExpressions shapes)
  | .comparison =>
    match shapes with
    | [left, .parts (.compared _ isMembership :: _)] => .comparison row left isMembership
    | _ => .value row
  | .compared isMembership => .compared row isMembership
  | .arguments => .arguments row (Shape.allExpressions shapes)

/-- The statements of old that are calls now. -/
def isOldStatement : Shape → Bool
  | .name _ text => ["print", "exec"].contains (Text.normalForm text)
  | _ => false

section

variable (text : Text)

/-- The row to blame for a mistake, if what was read is one after all. -/
def Culprit.row? (culprit : Culprit) (shapes : List Shape) : Reading (Option Nat) := do
  match culprit with
  | .part index => return (shapes.getD index .absent).row?
  | .last => return some (← lastRow text)
  | .unusable use index => return unusableRow? use (shapes.getD index .absent)
  | .oldStatement =>
    let first := shapes.headD .absent
    return if isOldStatement first then first.row? else none
  | .lacksComma =>
    let second := shapes.getD 1 .absent
    let depth := text.depths.getD ((← get).position - 1) 0
    return if isOldStatement second || depth = 0 then none else second.row?
  | .lastArgument =>
    match shapes with
    | .arguments _ (_ :: second :: rest) :: _ => return (second :: rest).getLastD .absent |>.row?
    | _ => return none

/-- Reads an alternative. -/
def readAlternative (step : Phrase → Reading Shape) (alternative : Alternative) :
    Reading Shape := do
  match alternative with
  | .reads form phrases =>
    let start := (← get).position
    return form.shape (text.row start) (← inSequence step phrases)
  | .wrong culprit phrases =>
    match ← culprit.row? text (← inSequence step phrases) with
    | some row => throw (.mistake row)
    | none => throw .deadEnd
  | .suspect rule => if (← get).searching then step (.rule rule) else throw .mismatch

/-- Reads a rule. -/
def readRule (step : Phrase → Reading Shape) (rule : Rule) : Reading Shape :=
  let alternatives := firstOf (readAlternative text step) rule.alternatives
  remembered rule (if rule = .quietExpression then quietly alternatives else alternatives)

/-- Reads a phrase whose parts nest at most as deeply as the bound says. -/
def read : Nat → Phrase → Reading Shape
  | 0, _ => throw .mismatch
  | bound + 1, phrase => do
    match phrase with
    | .word spelling => asToken text (spells spelling)
    | .soft spelling => readName text (· == spelling)
    | .name => readName text fun _ => true
    | .softName => asToken text startsSoftWord
    | .number => readNumber text fun _ => true
    | .real => readNumber text fun literal => !isImaginary literal
    | .imaginary => readNumber text isImaginary
    | .string => asToken text (· matches .string _)
    | .strings => readStrings text
    | .newline => asToken text (· == .newline)
    | .indent => asToken text (· == .indent)
    | .dedent => asToken text (· == .dedent)
    | .finish => asToken text (· == .finish)
    | .rule rule => readRule text (read bound) rule
    | .opt phrase => return (← optionally (read bound phrase)).getD .absent
    | .many phrase => return .parts (← repeatedly (read bound phrase) text.tokens.size)
    | .some phrase =>
      let first ← read bound phrase
      return .parts (first :: (← repeatedly (read bound phrase) text.tokens.size))
    | .listOf separator phrase =>
      let first ← read bound phrase
      let rest ← repeatedly (do
        let _ ← asToken text (spells separator)
        read bound phrase) text.tokens.size
      return .parts (first :: rest)
    | .oneOf alternatives =>
      firstOf (fun phrases => do
        return Form.shape (if phrases.length = 1 then .plain else .parts) 0
          (← inSequence (read bound) phrases)) alternatives
    | .ahead phrase =>
      let position := (← get).position
      let _ ← read bound phrase
      moveTo position
      return .absent
    | .notAhead phrase =>
      let position := (← get).position
      match ← optionally (read bound phrase) with
      | some _ => throw .mismatch
      | none =>
        moveTo position
        return .absent
    | .forced spelling =>
      let token ← look text
      if spells spelling token.word then asToken text (spells spelling)
      else throw (.mistake token.start.row)
    | .cut => return .absent

end

end CallSites.Source.Blame
