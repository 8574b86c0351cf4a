import CallSites.Match
import CallSites.Report.Config
import CallSites.Report.Table

/-! # Reports

A report has a title, the number of matches, a table of those that are shown, and the number of
those that are not.
-/

namespace CallSites.Report

/-- The title of a report. -/
def title : List Char := "CALL MATCHES".toList

/-- A title between two rules, over the whole width. A terminal of four cells or less has only room
for a rule. -/
def titleLine (width : Nat) (title : List Char) : Line :=
  if width ≤ 4 then [⟨.green, List.replicate width '─'⟩]
  else
    let title := truncate (width - 4) title
    let left := (width - Text.cells title) / 2 - 1
    let right := width - left - Text.cells title - 2
    [⟨.green, List.replicate left '─' ++ [' ']⟩, ⟨.bold, title⟩,
      ⟨.green, ' ' :: List.replicate right '─'⟩]

/-- Cuts a line into parts of the same lengths as the given ones, each without its overhang. -/
def cutLine (width : Nat) : List (List Char) → Line → List Line
  | [], _ => []
  | part :: parts, line =>
    let (current, rest) := Line.splitAt part.length line
    (Line.splitAt (dropOverhang width part).length current).1 :: cutLine width parts rest

/-- Breaks a line where words have no room. -/
def foldLine (width : Nat) (line : Line) : List Line :=
  cutLine width (breakWords width [] (words line.chars)) line

/-- The number of matches. -/
def countLine (count : Nat) : Line :=
  [⟨.bold, "Matches:".toList⟩, ⟨.plain, (" " ++ toString count).toList⟩]

/-- The number of matches that are not shown. -/
def hiddenLine (count : Nat) : Line :=
  [⟨.dim, ("... " ++ toString count ++ " more").toList⟩]

/-- The columns of the table of matches. -/
def columns (showBindings : Bool) : List Column :=
  [⟨"Location".toList, .cyan⟩, ⟨"Signature".toList, .yellow⟩] ++
    if showBindings then [⟨"Arguments".toList, .plain⟩] else []

/-- The cells of a match. Texts from the source are escaped. -/
def row (showBindings : Bool) (found : Match) : List (List Char) :=
  [found.location.text.toList, Markup.escape found.signature.toList] ++
    if showBindings then [Markup.escape found.bindingsText.toList] else []

/-- The table of matches. -/
def table (config : Config) (found : List Match) : Table :=
  ⟨columns config.showBindings, (config.limit found).map (row config.showBindings)⟩

/-- The lines of a report. -/
def lines (config : Config) (found : List Match) : List Line :=
  let shown := config.limit found
  let hidden := found.length - shown.length
  [[], titleLine config.width title, []] ++
    foldLine config.width (countLine found.length) ++
    (if shown.isEmpty then [] else [] :: (table config found).lines config.width) ++
    if hidden = 0 then [] else foldLine config.width (hiddenLine hidden)

/-- A report as text, with codes for the styles or without. -/
def text (config : Config) (colour : Bool) (found : List Match) : String :=
  String.join ((lines config found).map fun line => line.written colour ++ "\n")

end CallSites.Report
