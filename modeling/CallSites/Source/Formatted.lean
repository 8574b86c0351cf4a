import CallSites.Source.Blame
import CallSites.Source.Grammar.Statement
import CallSites.Source.Lexer

/-! # Formatted strings

A formatted string is a single token. Its body is literal text with replacement fields in braces: an
expression, which may be followed by an equals sign, a conversion and a format. A format is read
like a body again, but braces cannot be doubled in it and its fields may not hold fields in their
formats. Braces, brackets and quotes tell where an expression ends. It is then read like a
text of its own, in parentheses, the first of which stands in the place of the brace.

`resolve` reads the formatted strings among the tokens of a text. The parser takes the parts that it
finds from the tokens, and a string that it cannot read is a mistake when the parser gets to it.
-/

namespace CallSites.Source.Formatted

/-- What is wrong with a formatted string: something in the string itself, or the expression of a
replacement field, and then in the given row. -/
abbrev Flaw := Option Nat

/-- What is left to read of a body, and where it starts. -/
structure Remainder where
  pos : Pos
  chars : List Char

/-- Where the reading of literal text stands with respect to escapes. -/
inductive LiteralMode where
  /-- Outside of escapes. -/
  | outside
  /-- After a backslash. -/
  | escaped
  /-- After a backslash and `N`, which the name of a character in braces should follow. -/
  | beforeName
  | inName
deriving DecidableEq

/-- Literal text up to a brace or to the end. A doubled brace ends it too and is read as one brace;
the truth value says whether the text ended so. In a body a closing brace must be doubled. -/
def literal? (raw inFormat : Bool) :
    LiteralMode → Pos → List Char → Option (List Char × Bool × Remainder)
  | _, pos, [] => some ([], false, ⟨pos, []⟩)
  | mode, pos, c :: rest =>
    let goOn (mode : LiteralMode) := (literal? raw inFormat mode (pos.after c) rest).map
      fun (text, ended) => (c :: text, ended)
    match mode with
    | .beforeName => goOn (if c = '\x7b' then .inName else .outside)
    | .inName => goOn (if c = '\x7d' then .outside else .inName)
    | _ =>
      if c = '\x7b' ∨ c = '\x7d' then
        if inFormat then some ([], false, ⟨pos, c :: rest⟩)
        else if rest.head? = some c then
          some ([c], true, ⟨(pos.after c).after c, rest.tail⟩)
        else if c = '\x7d' then none
        else some ([], false, ⟨pos, c :: rest⟩)
      else if mode = .escaped then goOn (if c = 'N' then .beforeName else .outside)
      else goOn (if c = '\\' ∧ !raw ∧ !rest.isEmpty then .escaped else .outside)

/-- What is open inside an expression: a string with its quote, which may be a long one, and
brackets, innermost first. -/
structure Inside where
  quote : Option (Char × Bool) := none
  brackets : List Char := []

/-- Operators that may be mistaken for the end of an expression. -/
def comparisons : List (List Char) := ["!=", "==", "<=", ">="].map String.toList

/-- The expression at the front up to the character that ends it, and what is left from there on.
Nothing if it holds a backslash or a comment, or if what it opens is not closed. The count says how
many characters are taken as they are. -/
def expression? : Nat → Inside → Pos → List Char → Option (List Char × Remainder)
  | _, _, _, [] => none
  | skip, inside, pos, c :: rest =>
    let goOn (skip : Nat) (inside : Inside) :=
      (expression? skip inside (pos.after c) rest).map fun (text, left) => (c :: text, left)
    match skip with
    | skip + 1 => goOn skip inside
    | 0 =>
      if c = '\\' then none
      else match inside.quote with
        | some (quote, isLong) =>
          if c != quote then goOn 0 inside
          else if !isLong then goOn 0 { inside with quote := none }
          else if Lexer.isLong quote rest then goOn 2 { inside with quote := none }
          else goOn 0 inside
        | none =>
          if Lexer.isQuote c then
            let isLong := Lexer.isLong c rest
            goOn (if isLong then 2 else 0) { inside with quote := some (c, isLong) }
          else if Lexer.isOpening c then
            if Lexer.maxBrackets ≤ inside.brackets.length then none
            else goOn 0 { inside with brackets := c :: inside.brackets }
          else if c = '#' then none
          else if inside.brackets.isEmpty ∧ comparisons.any (·.isPrefixOf (c :: rest)) then
            goOn 1 inside
          else if inside.brackets.isEmpty ∧ ['!', ':', '\x7d', '='].contains c then
            some ([], ⟨pos, c :: rest⟩)
          else match Lexer.opening? c with
            | none => goOn 0 inside
            | some opening =>
              match inside.brackets with
              | open_ :: brackets =>
                if open_ = opening then goOn 0 { inside with brackets } else none
              | [] => none

/-- Blank characters that may surround the expression of a replacement field. -/
def isInnerBlank (c : Char) : Bool := [' ', '\t', '\n', '\x0c'].contains c

/-- Blank characters that may follow the equals sign after an expression. -/
def isSpace (c : Char) : Bool := isInnerBlank c || c == '\r' || c == '\x0b'

/-- The equals sign at the front with the blank characters after it. -/
def equals (left : Remainder) : List Char × Remainder :=
  match left.chars with
  | '=' :: rest =>
    let text := '=' :: rest.takeWhile isSpace
    (text, ⟨left.pos.afterAll text, rest.dropWhile isSpace⟩)
  | _ => ([], left)

/-- The conversion at the front, if there is one. -/
def conversion? (left : Remainder) : Option (Option Char × Remainder) :=
  match left.chars with
  | '!' :: c :: rest =>
    if ['s', 'r', 'a'].contains c then some (some c, ⟨left.pos.afterAll ['!', c], rest⟩) else none
  | ['!'] => none
  | _ => some (none, left)

/-- Fails if something in the string itself is wrong. -/
def orFlaw {α : Type} : Option α → Except Flaw α
  | some a => .ok a
  | none => .error none

section

-- `read` reads the expression of a replacement field, given with the position of the brace before
-- it, and `holder` is the span of the string.
variable (read : Pos → List Char → Except Flaw Expr) (holder : Span) (raw : Bool)

/-- The parts of a body, of a format in it, or of a format in such a format, and what is left: the
end, or the closing brace of the field with the format. Every call uses up a character, which
bounds the number of calls. -/
def parts : Nat → Nat → Remainder → Except Flaw (List FormattedPart × Remainder)
  | 0, _, _ => .error none
  | calls + 1, depth, left => do
    let (text, doubled, left) ← orFlaw (literal? raw (0 < depth) .outside left.pos left.chars)
    let codes ← orFlaw (Escaped.codes? raw text)
    if doubled then
      let (more, left) ← parts calls depth left
      return (.text codes :: more, left)
    else match left.chars with
      | '\x7b' :: rest =>
        if 2 ≤ depth then .error none
        let (text, after) ← orFlaw (expression? 0 {} (left.pos.after '\x7b') rest)
        if text.all isInnerBlank then .error none
        let value ← read left.pos text
        let (equals, after) := equals after
        let (conversion, after) ← orFlaw (conversion? after)
        let (format, after) ← match after.chars with
          | ':' :: rest => do
            let (format, after) ← parts calls (depth + 1) ⟨after.pos.after ':', rest⟩
            pure (some format, after)
          | _ => pure (none, after)
        match after.chars with
        | '\x7d' :: rest =>
          let shown := if equals.isEmpty then [] else [.text ((text ++ equals).map Char.toNat)]
          let conversion :=
            if !equals.isEmpty && conversion.isNone && format.isNone then some 'r' else conversion
          let (more, left) ← parts calls depth ⟨after.pos.after '\x7d', rest⟩
          return (.text codes :: shown ++ .field holder value conversion format :: more, left)
        | _ => .error none
      | _ => return ([.text codes], left)

/-- The parts of a whole body. -/
def body (pos : Pos) (chars : List Char) : Except Flaw (List FormattedPart) := do
  return (← parts read holder raw (chars.length + 2) 0 ⟨pos, chars⟩).1

end

/-- Where the text of an expression starts for a token that starts at `start`. A line break directly
after the brace hides how far the brace is indented. -/
def origin (start brace : Pos) (text : List Char) : Pos :=
  let indented := text.dropWhile fun c => c = ' ' ∨ c = '\t' ∨ c = '\x0c'
  if indented.head? = some '\n' then ⟨brace.row, if brace.row = start.row then start.column else 0⟩
  else brace

/-- A token of an expression that starts at `origin`. A token that reaches over the end of the first
line counts its column from the start of the expression. -/
def adjusted (origin : Pos) (token : Token) : Token :=
  if token.start.row = origin.row ∧ origin.row < token.stop.row then
    { token with start := ⟨token.start.row, token.start.column - origin.column⟩ }
  else token

/-- A token whose formatted string, if it is one, has been read. -/
def resolveToken (read : Pos → Pos → List Char → Except Flaw Expr) (token : Token) : Token :=
  match token.word with
  | .string (.formatted raw opening chars) =>
    let pos : Pos := ⟨token.start.row, token.start.column + opening⟩
    match body (read token.start) (.between token.start token.stop) raw pos chars with
    | .ok parts => { token with parts }
    | .error flaw => { token with word := .string (.misformatted flaw) }
  | _ => token

/-- Reads the formatted strings among some tokens. Those in the expressions of others are shorter,
so the length of the text bounds how deeply they nest. -/
def resolve : Nat → List Token → List Token
  | 0, tokens => tokens
  | depth + 1, tokens => tokens.map <| resolveToken fun start brace text =>
    let origin := origin start brace text
    let inside := Lexer.tokensFrom origin ('(' :: text ++ [')'])
    let tokens := resolve depth (inside.map (adjusted origin))
    match Grammar.expressionList (Grammar.inner (tokens.length + 1)) ⟨tokens, ⟨0, 0⟩⟩ with
    | some (value, _) => .ok value
    | none => .error (some (Blame.row .starExpressions tokens))

end CallSites.Source.Formatted
