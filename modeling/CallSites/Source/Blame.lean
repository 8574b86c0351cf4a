import CallSites.Source.Blame.Reading

/-! # The row to blame for a mistake

A text that is not in the language is read twice: first to see how far it can be read, then once
more with an eye to common mistakes. If none is found, the last token of the first reading is to
blame. What is wrong with the splitting of the rest of the text goes before all that.
-/

namespace CallSites.Source

namespace Blame

/-- How deeply rules nest for every token at most. -/
def rulesPerToken : Nat := 64

/-- Reads a text from its start. -/
def readAs (root : Rule) (text : Text) : Reading Shape := do
  moveTo 0
  read text (rulesPerToken * (text.tokens.size + 1)) (.rule root)

/-- The outcome of reading a text: why it stopped, unless it was read. -/
def outcome (root : Rule) (text : Text) (state : State) : Option Stop × State :=
  match (readAs root text).run state with
  | .ok _ state => (none, state)
  | .error stop state => (some stop, state)

/-- The breakage at the end of a text that cannot be split into tokens. -/
def breakage? (text : Text) : Option Breakage :=
  match text.tokens.back?.map Token.word with
  | some (.broken why) => some why
  | _ => none

/-- The row to blame when a mistake was found in the given row, before a breakage was reached. A
breakage that prevails is blamed instead, and so is a bracket that was opened above the last token
that was looked at and that no token closes. -/
def finalRow (text : Text) (state : State) (row : Nat) : Nat :=
  match breakage? text with
  | none => row
  | some why =>
    if why.prevails then why.row
    else match why.openRow with
      | some openRow => if openRow < text.row (state.seen - 1) then openRow else row
      | none => row

/-- The row to blame when no common mistake was found; `last` is the index of the last token of the
first reading. A change of indentation is blamed itself. -/
def unexplainedRow (text : Text) (state : State) (last : Nat) : Nat :=
  match text.tokens[last]?.map Token.word with
  | some .indent | some .dedent => text.row (state.seen - 1)
  | _ => finalRow text state (text.row last)

/-- The row to blame in a text that cannot be read by the rule for it. -/
def row (root : Rule) (tokens : List Token) : Nat :=
  let text := Text.ofTokens tokens
  match outcome root text {} with
  | (some (.broken row), _) => row
  | (some (.mistake row), state) => finalRow text state row
  | (_, first) =>
    match outcome root text { seen := first.seen, searching := true } with
    | (some (.broken row), _) => row
    | (some (.mistake row), state) => finalRow text state row
    | (_, state) => unexplainedRow text state (first.seen - 1)

end Blame

end CallSites.Source
