import CallSites.Tree.Printer.Output

/-! # Strings with few backslashes

Formatted strings and documentation strings are written in the quotes that need the fewest
backslashes: line breaks and tabs may stay as they are inside triple quotes.
-/

namespace CallSites.Tree.Printer

/-- The quotes in which a string may be written, in order of preference. -/
def allQuotes : List String := ["'", "\"", "\"\"\"", "'''"]

/-- The quotes inside which lines may break. -/
def multilineQuotes : List String := ["\"\"\"", "'''"]

/-- One code point of such a string. -/
def escapeSparingly (escapeBreaks : Bool) (code : Nat) : List Char :=
  if !escapeBreaks && (code == '\n'.toNat || code == '\t'.toNat) then [Char.ofNat code]
  else Text.escapeCode '\\' code

/-- Whether the first list stands somewhere inside the second. -/
def occursIn (part : List Char) : List Char → Bool
  | [] => part.isEmpty
  | c :: rest => part.isPrefixOf (c :: rest) || occursIn part rest

/-- What a string literal holds between its quotes when it may be written in one of the given
quotes, and the quotes that remain possible. -/
def sparingly (quotes : List String) (escapeBreaks : Bool) (codes : List Nat) :
    List Char × List String :=
  let escaped := codes.flatMap (escapeSparingly escapeBreaks)
  let possible := if escaped.contains '\n' then quotes.filter multilineQuotes.contains else quotes
  let possible := possible.filter fun quote => !occursIn quote.toList escaped
  if possible.isEmpty then
    let quote := Text.quoteFor codes
    let chosen := (quotes.find? fun q => q.toList.contains quote).getD (String.singleton quote)
    (codes.flatMap (Text.escapeCode quote), [chosen])
  else match escaped.getLast? with
    | none => (escaped, possible)
    | some last =>
      let clashes (quote : String) : Bool := quote.toList.head? == some last
      let ordered := possible.filter (fun quote => !clashes quote) ++ possible.filter clashes
      if ordered.head?.any clashes then (escaped.dropLast ++ ['\\', last], ordered)
      else (escaped, ordered)

/-- Writes a string literal with few backslashes. -/
def writeSparingly (quotes : List String) (codes : List Nat) : Print Unit :=
  let (inside, possible) := sparingly quotes false codes
  let quote := possible.headD ""
  write (quote ++ String.ofList inside ++ quote)

/-- The parts of a formatted string, each with whether it is a constant part, between quotes that
suit all of them; nothing if there are none. -/
def sharedQuotes : List String → List (List Nat × Bool) → Option (List Char × List String)
  | quotes, [] => some ([], quotes)
  | quotes, (codes, isConstant) :: rest =>
    let (inside, possible) := sparingly quotes isConstant codes
    if possible.any quotes.contains then
      (sharedQuotes possible rest).map fun (more, quotes) => (inside ++ more, quotes)
    else none

/-- Writes the parts of a formatted string. If no quotes suit all of them, triple quotes are used
and the parts are quoted one by one. -/
def writeFormatted (parts : List (List Nat × Bool)) : Print Unit :=
  match sharedQuotes allQuotes parts with
  | some (inside, quotes) =>
    let quote := quotes.headD ""
    write (quote ++ String.ofList inside ++ quote)
  | none =>
    let inside := parts.flatMap fun (codes, _) => codes.flatMap (Text.escapeCode '\'')
    write ("'''" ++ String.ofList inside ++ "'''")

end CallSites.Tree.Printer
