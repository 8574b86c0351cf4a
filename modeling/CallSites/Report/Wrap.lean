import CallSites.Text.Character
import CallSites.Text.Cells

/-! # Wrapping text

`wrap` breaks a text between words into lines, and `fit` gives a line exactly a given number of
cells: a short line is padded, and a long one is cut and ends in an ellipsis.
-/

namespace CallSites.Report

open Text (cells charCells isBlank stripEnd)

/-- Whether two neighbours stay together: a word begins where a blank ends. -/
def staysTogether (before after : Char) : Bool := !(isBlank before && !isBlank after)

/-- The words of a text, each with the blanks after it, and the first with those before it. -/
def words (text : List Char) : List (List Char) :=
  match text.splitBy staysTogether with
  | first :: second :: rest =>
    if first.all isBlank then (first ++ second) :: rest else first :: second :: rest
  | groups => groups

/-- Breaks words into lines; `line` holds what already stands on the first one. Blanks at the end
of a word need no room. -/
def breakWords (width : Nat) (line : List Char) : List (List Char) → List (List Char)
  | [] => [line]
  | word :: rest =>
    if line.isEmpty || decide (cells line + cells (stripEnd word) ≤ width) then
      breakWords width (line ++ word) rest
    else line :: breakWords width word rest

/-- Drops blanks at the end as far as the line is longer than the width. -/
def dropOverhang (width : Nat) (line : List Char) : List Char :=
  let blanks := (line.reverse.takeWhile isBlank).length
  line.take (line.length - min blanks (line.length - width))

/-- The lines of a text. -/
def wrap (width : Nat) (text : List Char) : List (List Char) :=
  (breakWords width [] (words text)).map (dropOverhang width)

/-- As much of a text as has room; a wide character with room for one half is shown blank. -/
def takeCells : Nat → List Char → List Char
  | _, [] => []
  | room, c :: rest =>
    if charCells c ≤ room then c :: takeCells (room - charCells c) rest
    else List.replicate room ' '

/-- The text if it has room, else its start and an ellipsis. -/
def truncate (width : Nat) (text : List Char) : List Char :=
  if cells text ≤ width then text else takeCells (width - 1) text ++ ['…']

/-- The line in exactly `width` cells. -/
def fit (width : Nat) (line : List Char) : List Char :=
  let line := truncate width line
  line ++ List.replicate (width - cells line) ' '

end CallSites.Report
