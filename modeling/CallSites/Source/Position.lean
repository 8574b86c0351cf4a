/-! # Positions in source text

A position is a row, counted from zero, and a column, counted in bytes of UTF-8. A span starts at a
position and reaches down a number of rows to its last column, so it never ends above its start.
-/

namespace CallSites.Source

/-- A place between two characters of a text. -/
structure Pos where
  row : Nat
  column : Nat
deriving DecidableEq, Repr, Inhabited

namespace Pos

/-- The position after a character. -/
def after (pos : Pos) (c : Char) : Pos :=
  if c = '\n' then ⟨pos.row + 1, 0⟩ else ⟨pos.row, pos.column + c.utf8Size⟩

/-- The position after some characters. -/
def afterAll (pos : Pos) (chars : List Char) : Pos := chars.foldl after pos

/-- The number of the line, counted from one. -/
def line (pos : Pos) : Nat := pos.row + 1

end Pos

/-- A stretch of source text. -/
structure Span where
  start : Pos
  height : Nat
  endColumn : Nat
deriving DecidableEq, Repr, Inhabited

namespace Span

/-- The span between two positions. -/
def between (start stop : Pos) : Span := ⟨start, stop.row - start.row, stop.column⟩

/-- The number of the last line, counted from one. -/
def endLine (span : Span) : Nat := span.start.line + span.height

end Span

end CallSites.Source
