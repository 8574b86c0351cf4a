import CallSites.Source.Token
import CallSites.Text.Identifier
import CallSites.Text.Printable

/-! # Splitting source text into tokens

`tokens` reads a text line by line. Outside brackets the indentation of a line is compared with
the enclosing ones, and the end of a line is a token. Inside brackets neither matters. Comments,
blank lines and joined lines leave no token behind.
-/

namespace CallSites.Source.Lexer

/-- The text with one character for each line end, however it was written. -/
def unifyLineEnds : List Char → List Char
  | [] => []
  | '\r' :: '\n' :: rest => '\n' :: unifyLineEnds rest
  | '\r' :: rest => '\n' :: unifyLineEnds rest
  | c :: rest => c :: unifyLineEnds rest

/-- The characters that a text ends with when it is read: a last line without an end is ended, and
an end written as two characters is followed by an empty line. -/
def ending (text : List Char) : List Char :=
  match text.reverse with
  | '\n' :: '\r' :: _ => ['\n']
  | '\n' :: _ | '\r' :: _ => []
  | _ => ['\n']

/-- How far a line is indented: once with tab stops of eight, once with every tab as one. -/
structure Indent where
  width : Nat
  narrow : Nat
deriving DecidableEq, Repr

/-- How deeply brackets and blocks may nest. -/
def maxBrackets : Nat := 200
def maxIndents : Nat := 100

/-- What is open at a place of the text: brackets with their rows and blocks with their
indentation, innermost first. -/
structure Context where
  brackets : List (Char × Nat)
  indents : List Indent
deriving Repr

/-- The innermost indentation. -/
def Context.indent (context : Context) : Indent := context.indents.headD ⟨0, 0⟩

/-- A breakage that is blamed even for earlier mistakes. -/
def Context.prevailing (context : Context) (row : Nat) : Breakage :=
  ⟨row, true, context.brackets.head?.map (·.2)⟩

/-- A breakage that is blamed only if the parser gets to it. -/
def Context.passing (context : Context) (row : Nat) : Breakage :=
  ⟨row, false, context.brackets.head?.map (·.2)⟩

/-- The text ends where it must go on: an open bracket is blamed if there is one. -/
def Context.unfinished (context : Context) (row : Nat) : Breakage :=
  let openRow := context.brackets.head?.map (·.2)
  ⟨openRow.getD row, false, openRow⟩

/-- Reads the indentation of a line. A line joined to the next one by a backslash is indented as
its first part; `joined` holds that width once there is one. -/
def indentation (context : Context) (indent : Indent) (joined : Nat) (pos : Pos) :
    List Char → Except Breakage (Indent × Pos × List Char)
  | ' ' :: rest =>
    indentation context ⟨indent.width + 1, indent.narrow + 1⟩ joined (pos.after ' ') rest
  | '\t' :: rest =>
    indentation context ⟨(indent.width / 8 + 1) * 8, indent.narrow + 1⟩ joined (pos.after '\t')
      rest
  | '\x0c' :: rest => indentation context ⟨0, 0⟩ joined (pos.after '\x0c') rest
  | '\\' :: '\n' :: [] => .error (context.unfinished pos.row)
  | '\\' :: '\n' :: rest =>
    indentation context indent (if joined = 0 then indent.width else joined)
      ((pos.after '\\').after '\n') rest
  | '\\' :: _ => .error (context.passing pos.row)
  | rest => .ok (if joined = 0 then indent else ⟨joined, joined⟩, pos, rest)

/-- The blocks that a line with a smaller indentation closes, and those that stay open. -/
def closedBlocks (width : Nat) : List Indent → Nat × List Indent
  | [] => (0, [])
  | indent :: rest =>
    if width < indent.width then
      let (count, rest) := closedBlocks width rest
      (count + 1, rest)
    else (0, indent :: rest)

/-- Compares the indentation of a line with the enclosing one: the words for blocks that open or
close, and what is open then. -/
def reindent (context : Context) (indent : Indent) (row : Nat) :
    Except Breakage (List Word × Context) :=
  let current := context.indent
  let bad : Except Breakage (List Word × Context) := .error (context.passing row)
  if indent.width = current.width then
    if indent.narrow = current.narrow then .ok ([], context) else bad
  else if current.width < indent.width then
    if maxIndents ≤ context.indents.length + 1 ∨ indent.narrow ≤ current.narrow then bad
    else .ok ([.indent], { context with indents := indent :: context.indents })
  else
    let (count, indents) := closedBlocks indent.width context.indents
    let context' := { context with indents }
    if indent = context'.indent then .ok (List.replicate count .dedent, context') else bad

/-- Whether a character belongs to a name as far as splitting goes; characters beyond ASCII are
judged when the whole name is known. -/
def isNameChar (c : Char) : Bool := c.isAlphanum || c == '_' || decide (128 ≤ c.toNat)

def isNameStart (c : Char) : Bool := c.isAlpha || c == '_' || decide (128 ≤ c.toNat)

def isQuote (c : Char) : Bool := c == '\'' || c == '"'

/-- What the letters before a quote say about a string. -/
structure StringStyle where
  raw : Bool
  bytes : Bool
  marked : Bool
  formatted : Bool

/-- The style that a prefix stands for, if it is one. -/
def stringStyle? (letters : List Char) : Option StringStyle :=
  let lower := letters.map Char.toLower
  let marked := letters == ['u']
  if lower = [] ∨ lower = ['u'] then some ⟨false, false, marked, false⟩
  else if lower = ['r'] then some ⟨true, false, false, false⟩
  else if lower = ['b'] then some ⟨false, true, false, false⟩
  else if lower = ['b', 'r'] ∨ lower = ['r', 'b'] then some ⟨true, true, false, false⟩
  else if lower = ['f'] then some ⟨false, false, false, true⟩
  else if lower = ['f', 'r'] ∨ lower = ['r', 'f'] then some ⟨true, false, false, true⟩
  else none

/-- What stands before the closing quote on the same line, and the rest after it. -/
def shortBody? (quote : Char) : List Char → Option (List Char × List Char)
  | [] => none
  | '\\' :: c :: rest =>
    (shortBody? quote rest).map fun (body, rest) => ('\\' :: c :: body, rest)
  | c :: rest =>
    if c = quote then some ([], rest)
    else if c = '\n' then none
    else (shortBody? quote rest).map fun (body, rest) => (c :: body, rest)

/-- What stands before three closing quotes, and the rest after them. -/
def longBody? (quote : Char) : List Char → Option (List Char × List Char)
  | [] => none
  | '\\' :: c :: rest =>
    (longBody? quote rest).map fun (body, rest) => ('\\' :: c :: body, rest)
  | c :: rest =>
    if [quote, quote, quote].isPrefixOf (c :: rest) then some ([], rest.drop 2)
    else (longBody? quote rest).map fun (body, rest) => (c :: body, rest)

/-- Whether three quotes open a string, of which the first one was read. -/
def isLong (quote : Char) (rest : List Char) : Bool := [quote, quote].isPrefixOf rest

/-- The body of a string after its first quote, and the rest after it. -/
def body? (quote : Char) (rest : List Char) : Option (List Char × List Char) :=
  if isLong quote rest then longBody? quote (rest.drop 2) else shortBody? quote rest

/-- One part of a string literal; `opening` characters stand before its body. -/
def stringPart (style : StringStyle) (opening : Nat) (body : List Char) : StringPart :=
  if style.formatted then .formatted style.raw opening body
  else if style.bytes then
    if body.all fun c => c.toNat < 128 then
      ((Escaped.bytes? style.raw body).map .bytes).getD .malformed
    else .foreign
  else
    ((Escaped.codes? style.raw body).map fun codes => .text codes style.marked).getD .malformed

/-- Symbols of more than one character, longer ones first. -/
def longSymbols : List (List Char) :=
  ["**=", "//=", "<<=", ">>=", "...", "!=", "%=", "&=", "**", "*=", "+=", "-=", "->", "//", "/=",
   ":=", "<<", "<=", "<>", "==", ">=", ">>", "@=", "^=", "|="].map String.toList

/-- The symbol at the front of the characters, and the rest. -/
def symbol (c : Char) (rest : List Char) : List Char × List Char :=
  match longSymbols.find? fun text => text.isPrefixOf (c :: rest) with
  | some text => (text, (c :: rest).drop text.length)
  | none => ([c], rest)

/-- The bracket that a closing bracket belongs to. -/
def opening? : Char → Option Char
  | ')' => some '('
  | ']' => some '['
  | '\x7d' => some '\x7b'
  | _ => none

def isOpening (c : Char) : Bool := c == '(' || c == '[' || c == '\x7b'

/-- The brackets that are open after a symbol; nothing if there are too many or if a closing
bracket does not belong to the innermost open one. -/
def bracketsAfter? (brackets : List (Char × Nat)) (row : Nat) (c : Char) :
    Option (List (Char × Nat)) :=
  if isOpening c then
    if maxBrackets ≤ brackets.length then none else some ((c, row) :: brackets)
  else match opening? c with
    | none => some brackets
    | some start =>
      match brackets with
      | (open_, _) :: rest => if open_ = start then some rest else none
      | [] => none

/-- A name, or a string that starts with letters. -/
def nameOrString (chars : List Char) : Option (Word × List Char) :=
  let letters := chars.takeWhile isNameChar
  let rest := chars.dropWhile isNameChar
  match rest.head?.filter isQuote, stringStyle? letters with
  | some quote, some style =>
    let opening := letters.length + if isLong quote (rest.drop 1) then 3 else 1
    (body? quote (rest.drop 1)).map fun (body, rest) =>
      (.string (stringPart style opening body), rest)
  | _, _ =>
    if Text.isIdentifier letters then some (.name (String.ofList letters), rest) else none

/-- The word at the front of the characters, and the rest; nothing if there is none. -/
def word? (c : Char) (rest : List Char) : Option (Word × List Char) :=
  if isNameStart c || isQuote c then nameOrString (c :: rest)
  else if c.isDigit || (c == '.' && rest.head?.any Char.isDigit) then
    (Number.read? (c :: rest)).map fun (literal, rest') =>
      match literal with
      | .int _ => (if Number.isOversized (c :: rest) then .oversized else .literal literal, rest')
      | _ => (.literal literal, rest')
  else if Text.isPrintable c then
    let (text, rest) := symbol c rest
    some (.symbol (String.ofList text), rest)
  else none

/-- The tokens at the end of the text. -/
def finish (context : Context) (pos : Pos) : List Token :=
  let last : Pos := ⟨pos.row - 1, pos.column⟩
  if context.brackets.isEmpty then
    context.indents.map (fun _ => .of .dedent last last) ++ [.of .finish last last]
  else [.of (.broken (context.unfinished last.row)) last last]

/-- The single token that ends a text which cannot be split further. -/
def stop (why : Breakage) (pos : Pos) : List Token := [.of (.broken why) pos pos]

/-- Splits the rest of a text. Every second call at the latest uses up a character, which bounds
the number of calls. -/
def run : Nat → Bool → Context → Pos → List Char → List Token
  | 0, _, _, _, _ => []
  | calls + 1, true, context, pos, chars =>
    match indentation context ⟨0, 0⟩ 0 pos chars with
    | .error why => stop why pos
    | .ok (indent, pos, rest) =>
      match rest with
      | [] => finish context pos
      | '\n' :: rest => run calls true context (pos.after '\n') rest
      | '#' :: rest =>
        run calls true context (pos.afterAll ('#' :: rest.takeWhile (· != '\n')))
          (rest.dropWhile (· != '\n'))
      | _ =>
        match reindent context indent pos.row with
        | .error why => stop why pos
        | .ok (words, context) =>
          words.map (.of · pos pos) ++ run calls false context pos rest
  | _ + 1, false, context, pos, [] => finish context pos
  | calls + 1, false, context, pos, c :: rest =>
    if c = ' ' ∨ c = '\t' ∨ c = '\x0c' then run calls false context (pos.after c) rest
    else if c = '#' then
      run calls false context (pos.afterAll ('#' :: rest.takeWhile (· != '\n')))
        (rest.dropWhile (· != '\n'))
    else if c = '\n' then
      if context.brackets.isEmpty then
        .of .newline pos (pos.after c) :: run calls true context (pos.after c) rest
      else run calls false context (pos.after c) rest
    else if c = '\\' then
      match rest with
      | '\n' :: next :: rest =>
        run calls false context ((pos.after c).after '\n') (next :: rest)
      | ['\n'] => stop (context.unfinished pos.row) pos
      | _ => stop (context.passing pos.row) pos
    else match word? c rest with
      | none => stop (context.prevailing pos.row) pos
      | some (word, rest') =>
        let next := pos.afterAll ((c :: rest).take (rest.length + 1 - rest'.length))
        let symbol := if word matches .symbol _ then c else ' '
        match bracketsAfter? context.brackets pos.row symbol with
        | none => stop (context.prevailing pos.row) pos
        | some brackets =>
          .of word pos next :: run calls false { context with brackets } next rest'

/-- The tokens of a text that starts at the given position. -/
def tokensFrom (pos : Pos) (text : List Char) : List Token :=
  let chars := unifyLineEnds text ++ ending text
  run (2 * chars.length + 2) true ⟨[], []⟩ pos chars

/-- The tokens of a text. -/
def tokens (text : List Char) : List Token := tokensFrom ⟨0, 0⟩ text

end CallSites.Source.Lexer
