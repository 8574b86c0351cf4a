/-! # Lines of styled text

A line is a row of spans, each in one style. It is written with or without the codes that switch
styles on a terminal.
-/

namespace CallSites.Report

/-- How a span looks. -/
inductive Style where
  | plain | bold | dim | green | cyan | yellow
deriving DecidableEq, Repr

/-- The code that switches a style on. -/
def Style.code? : Style → Option String
  | plain => none
  | bold => some "1"
  | dim => some "2"
  | green => some "92"
  | cyan => some "36"
  | yellow => some "33"

/-- Text in one style. -/
structure Span where
  style : Style
  text : List Char
deriving DecidableEq, Repr

/-- A line of text. -/
abbrev Line := List Span

namespace Line

/-- The characters of a line. -/
def chars (line : Line) : List Char := line.flatMap Span.text

/-- A line of unstyled text. -/
def unstyled (text : List Char) : Line := [⟨.plain, text⟩]

/-- Cuts a line after a number of characters. -/
def splitAt : Nat → Line → Line × Line
  | _, [] => ([], [])
  | 0, spans => ([], spans)
  | n + 1, span :: rest =>
    if span.text.length ≤ n + 1 then
      let (before, after) := splitAt (n + 1 - span.text.length) rest
      (span :: before, after)
    else ([⟨span.style, span.text.take (n + 1)⟩], ⟨span.style, span.text.drop (n + 1)⟩ :: rest)

end Line

/-- A span with the codes that switch its style on and off. -/
def Span.coloured (span : Span) : String :=
  match span.style.code? with
  | some code =>
    if span.text.isEmpty then ""
    else "\x1b[" ++ code ++ "m" ++ String.ofList span.text ++ "\x1b[0m"
  | none => String.ofList span.text

/-- A line as it is written, with codes for the styles or without. -/
def Line.written (colour : Bool) (line : Line) : String :=
  if colour then String.join (line.map Span.coloured) else String.ofList line.chars

end CallSites.Report
