import CallSites.Source.Expr
import CallSites.Source.Token

/-! # Parsing tokens

A parser reads tokens from a cursor and goes on with the cursor behind what it read, or fails. Which
line is to blame for a failure is another question, answered by `Blame`.
-/

namespace CallSites.Source

/-- The tokens that are left, and where the last word ended. -/
structure Cursor where
  tokens : List Token
  last : Pos

/-- A reader of tokens. -/
abbrev Parser := StateT Cursor Option

namespace Parser

/-- The next word. -/
def peek : Parser Word := return ((← get).tokens.head?.map Token.word).getD .finish

/-- The parts of the formatted string that comes next. -/
def peekParts : Parser (List FormattedPart) :=
  return ((← get).tokens.head?.map Token.parts).getD []

/-- The word after the next one. -/
def peekSecond : Parser Word := return (((← get).tokens.drop 1).head?.map Token.word).getD .finish

/-- Where the next word starts. -/
def here : Parser Pos := return ((← get).tokens.head?.map Token.start).getD ⟨0, 0⟩

/-- Fails: the next token does not fit. -/
def fail {α : Type} : Parser α := failure

/-- Passes over the next token. -/
def skip : Parser Unit := modify fun cursor =>
  match cursor.tokens with
  | [] => cursor
  | token :: rest =>
    match token.word with
    | .newline | .indent | .dedent | .finish => ⟨rest, cursor.last⟩
    | _ => ⟨rest, token.stop⟩

/-- The span from a position to the end of the last word. -/
def spanFrom (start : Pos) : Parser Span := return .between start (← get).last

def isSymbol (text : String) : Parser Bool := return (← peek) == .symbol text

def isName (text : String) : Parser Bool := return (← peek) == .name text

/-- Passes over a symbol if it comes next, and says whether it did. -/
def accept (text : String) : Parser Bool := do
  if ← isSymbol text then do skip; return true else return false

/-- Passes over a keyword if it comes next, and says whether it did. -/
def acceptName (text : String) : Parser Bool := do
  if ← isName text then do skip; return true else return false

/-- Passes over a symbol that has to come next. -/
def expect (text : String) : Parser Unit := do
  if ← isSymbol text then skip else fail

/-- Passes over a keyword that has to come next. -/
def expectName (text : String) : Parser Unit := do
  if ← isName text then skip else fail

/-- Reads an identifier. -/
def identifier : Parser Identifier := do
  match ← peek with
  | .name text => if free : isFree text = true then do skip; return ⟨text, free⟩ else fail
  | _ => fail

/-- Reads an identifier that is kept as a text. -/
def identifierText : Parser String := return (← identifier).name

/-- Repeats a step until it has nothing more to add. Each step reads a token, so there are at most
as many steps as tokens. -/
def iterate {α : Type} (step : α → Parser (Option α)) (start : α) : Parser α := do
  go (← get).tokens.length start
where
  go : Nat → α → Parser α
    | 0, a => return a
    | bound + 1, a => do
      match ← step a with
      | some a => go bound a
      | none => return a

/-- The rest of a list of items separated by commas, after its first item. The last comma may be
left standing: it ends the list if `more` says that no item follows it. Also says whether there
was any comma. -/
def commaRest {α : Type} (item : Parser α) (more : Parser Bool) (first : α) :
    Parser (List α × Bool) := do
  let (items, comma, _) ← iterate (fun (items, _, closed) => do
    if closed = true then return none
    else if ← accept "," then
      if ← more then return some (items ++ [← item], true, false)
      else return some (items, true, true)
    else return none) (([first], false, false) : List α × Bool × Bool)
  return (items, comma)

/-- Items separated by commas, at least one. -/
def commaList {α : Type} (item : Parser α) (more : Parser Bool) : Parser (List α × Bool) := do
  commaRest item more (← item)

end Parser

end CallSites.Source
