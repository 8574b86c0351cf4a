import CallSites.Fault
import CallSites.Tree.Display
import CallSites.Tree.Equality
import CallSites.Tree.Printer.Level

/-! # Printing steps

What printing a tree does: it writes pieces of text one after the other, asks for levels of binding,
and looks at attributes. A level that was asked for a node stays with that node, so a node that
occurs twice is printed the second time as it was last asked for. Writing something that is no text
only fails when the pieces are joined.
-/

namespace CallSites.Tree.Printer

/-- What is written. -/
inductive Piece where
  | text (s : String)
  /-- The code points of a text with lone surrogates. -/
  | surrogates (s : Text.SurrogateText)
  /-- A value that is no text. -/
  | other
deriving DecidableEq, Repr

namespace Piece

/-- The text that consists of the given code points, as a piece. -/
def ofCodes (codes : List Nat) : Piece :=
  if lone : codes.any Text.isSurrogate = true then surrogates ⟨codes, lone⟩
  else text (String.ofList (codes.map Char.ofNat))

/-- A value as a piece. -/
def ofValue : Value → Piece
  | .plain _ (.str s) => text s
  | .plain _ (.surrogates s) => surrogates s
  | _ => other

/-- The text that a piece is. -/
def text? : Piece → Option String
  | text s => some s
  | _ => none

/-- The code points of a piece that is a text. -/
def codes? : Piece → Option (List Nat)
  | text s => some (Text.codes s)
  | surrogates s => some s.codes
  | other => none

end Piece

/-- What has been printed so far, and what holds for what comes. -/
structure Output where
  /-- The pieces written, the last one first. -/
  pieces : List Piece := []
  /-- The pieces of the part that is being printed, if it was left for a new text since. -/
  left : Option (List Piece) := none
  /-- The levels that were asked for nodes, by tag. -/
  levels : List (Nat × Level) := []
  /-- How deeply lines are indented. -/
  indent : Nat := 0
  /-- Whether handlers handle groups. -/
  inGroup : Bool := false
  /-- Comments by the line they belong to. -/
  comments : List (Value × String) := []
  /-- Whether strings are written without backslashes, as inside formatted strings. -/
  plainQuotes : Bool := false

/-- A printing step. -/
abbrev Print := StateT Output (Except Unprintable)

/-- Writes a piece of text. -/
def write (text : String) : Print Unit :=
  modify fun out => { out with pieces := .text text :: out.pieces }

/-- Writes a text if it is needed. -/
def writeIf (needed : Bool) (text : String) : Print Unit := if needed then write text else pure ()

/-- Writes a text that consists of the given code points. -/
def writeCodes (codes : List Nat) : Print Unit :=
  modify fun out => { out with pieces := .ofCodes codes :: out.pieces }

/-- Writes a value that should be a text. -/
def writeValue (v : Value) : Print Unit :=
  modify fun out => { out with pieces := .ofValue v :: out.pieces }

/-- Starts a new line, unless nothing has been written. -/
def breakLine : Print Unit := do
  if !(← get).pieces.isEmpty then write "\n"

/-- Writes a text at the start of a line. -/
def fill (text : String) : Print Unit := do
  breakLine
  write (String.join (List.replicate (← get).indent "    ") ++ text)

/-- The code points of pieces that are all texts. -/
def joinedCodes (pieces : List Piece) : Print (List Nat) :=
  match pieces.mapM Piece.codes? with
  | some codes => pure codes.flatten
  | none => throw .wrongType

/-- Pieces as one text. All of them have to be texts, and without lone surrogates. -/
def joined (pieces : List Piece) : Print String :=
  match pieces.mapM Piece.text? with
  | some texts => pure (String.join texts)
  | none => throw (if pieces.contains .other then .wrongType else .loneSurrogate)

/-- Runs a step on its own and returns what it wrote, up to where it was left for a new text. -/
def buffered (step : Print Unit) : Print (List Piece) := do
  let before ← get
  set { before with pieces := [], left := none }
  step
  let after ← get
  set { after with pieces := before.pieces, left := before.left }
  return (after.left.getD after.pieces).reverse

/-- Runs a step on a new text, which takes the place of all that was written before. -/
def afresh (step : Print Unit) : Print Unit := do
  modify fun out => { out with pieces := [], left := out.left.or (some out.pieces) }
  step
  let _ ← joinedCodes (← get).pieces

/-- Goes on only if a value is what it has to be. -/
def require (holds : Bool) : Print Unit := if holds then pure () else throw .badValue

/-- The attribute of a value. -/
def attr (v : Value) (name : String) : Print Value :=
  match v.attr? name with
  | some w => pure w
  | none => throw .missingAttribute

/-- The values that a value runs through. -/
def elements (v : Value) : Print (List Value) :=
  match v.elements? with
  | some items => pure items
  | none => throw .wrongType

/-- The items of a value that has to be a list. -/
def listItems : Value → Print (List Value)
  | .list _ items => pure items
  | _ => throw .wrongType

/-- The values that an attribute runs through. -/
def attrElements (v : Value) (name : String) : Print (List Value) := do elements (← attr v name)

/-- The text that a value is, which has to be one without lone surrogates. -/
def textOf (v : Value) : Print String := joined [.ofValue v]

/-- The code points of the text that a value is. -/
def codesOf (v : Value) : Print (List Nat) := joinedCodes [.ofValue v]

/-- A value as it is shown inside a text. -/
def shownText (v : Value) : Print String :=
  if v.isTooLong then throw .badValue
  else if v.codes?.isSome then textOf v
  else pure v.display

/-- The kind of an operator. -/
def operator {α : Type} (table : Kind → Option α) (v : Value) : Print α :=
  match v.kind?.bind table with
  | some found => pure found
  | none => throw .unknownOperator

/-- Asks for a level of binding for a value; a list has none. -/
def ask (level : Level) : Value → Print Unit
  | .list .. => throw .wrongType
  | .node tag _ _ _ => modify fun out => { out with levels := (tag, level) :: out.levels }
  | .plain .. => pure ()

/-- The level that was last asked for a node. -/
def asked : Value → Print Level
  | .node tag _ _ _ => return ((← get).levels.lookup tag).getD .test
  | _ => return .test

/-- A step between an opening and a closing text. -/
def enclose (first last : String) (step : Print Unit) : Print Unit := do
  write first
  step
  write last

/-- A step, in parentheses if they are needed. -/
def parenthesizeIf (needed : Bool) (step : Print Unit) : Print Unit :=
  if needed then enclose "(" ")" step else step

/-- An expression of the given level, in parentheses if its place asks for a tighter one. -/
def atLevel (level : Level) (v : Value) (step : Print Unit) : Print Unit := do
  parenthesizeIf (decide (level < (← asked v))) step

/-- Steps with a separator between them. -/
def separated (separator : String) (step : Value → Print Unit) : List Value → Print Unit
  | [] => pure ()
  | v :: rest => do
    step v
    rest.forM fun v => do
      write separator
      step v

/-- Steps with commas between them. -/
def commas (step : Value → Print Unit) (items : List Value) : Print Unit :=
  separated ", " step items

/-- Steps with commas between them; a single one is followed by a comma. -/
def tupleItems (step : Value → Print Unit) : List Value → Print Unit
  | [v] => do
    step v
    write ","
  | items => commas step items

/-- Runs a step on pairs, which must not leave items over, with commas between them. -/
def commaPairs (step : Value → Value → Print Unit) : Bool → List Value → List Value → Print Unit
  | _, [], [] => pure ()
  | later, a :: as, b :: bs => do
    if later then write ", "
    step a b
    commaPairs step true as bs
  | _, _, _ => throw .badValue

/-- A colon, what follows it in its line, and an indented block. -/
def block (extra : Option String) (step : Print Unit) : Print Unit := do
  write ":"
  if let some text := extra then write text
  modify fun out => { out with indent := out.indent + 1 }
  step
  modify fun out => { out with indent := out.indent - 1 }

/-- A value as a key of a table. -/
def asKey : Value → Print Value
  | .list .. => throw .wrongType
  | v => pure v

end CallSites.Tree.Printer
