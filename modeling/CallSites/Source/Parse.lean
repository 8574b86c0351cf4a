import CallSites.Source.Formatted
import CallSites.Source.ToTree

/-! # Parsing source text

`parseFile` reads a whole text and `parseExpression` a single expression. A text that is not in
the language is answered with the line to blame. What a parser of files is to the rest of the
library is a `FileParser`, of which `parser` is the one defined here.

Two things are left out. The wording of a mistake is not given, a fixed word stands for it. And
texts may nest as deeply as memory allows: there is no bound on recursion, and only brackets and
blocks have the limits of the language.
-/

namespace CallSites.Source

open CallSites.Tree (Value)

/-- A mistake in a text. -/
structure Mistake where
  /-- What is wrong. -/
  message : String
  /-- The line to blame. -/
  line : Nat
deriving DecidableEq, Repr

/-- Why a text is not accepted. -/
inductive Refusal where
  /-- The text, or the name of its file, holds the null character. -/
  | nullCharacter
  /-- The text is not in the language. -/
  | mistake (found : Mistake)
deriving DecidableEq, Repr

/-- Stands for the wording of every mistake. -/
def unworded : String := "<reason>"

/-- Runs a parser on the tokens of a text. -/
def parseWith {α : Type} (grammar : Nat → Parser α) (text : String) : Except Refusal α :=
  let chars := text.toList
  if chars.contains '\x00' then .error .nullCharacter
  else
    let tokens := Formatted.resolve (chars.length + 1) (Lexer.tokens chars)
    match grammar (tokens.length + 1) ⟨tokens, ⟨0, 0⟩⟩ with
    | some (result, _) => .ok result
    | none => .error (.mistake ⟨unworded, Blame.row .file tokens + 1⟩)

/-- The tree of a whole text, its nodes tagged from `tag` on, with the first free tag. -/
def parseFile (tag : Nat) (text : String) : Except Refusal (Value × Nat) :=
  (parseWith Grammar.file text).map fun body => (fileTree body).retag tag

/-- The tree of an expression, its nodes tagged from `tag` on, with the first free tag. -/
def parseExpression (tag : Nat) (text : String) : Except Refusal (Value × Nat) :=
  (parseWith Grammar.soleExpression text).map fun value => (value.tree .load).retag tag

/-- A parser of files: it is given a text and the name of its file, and answers with the tree of the
text. -/
abbrev FileParser := String → Text.GivenText → Except Refusal Value

/-- The parser that is defined here. -/
def parser : FileParser := fun text filename =>
  if filename.holdsNull then .error .nullCharacter
  else (parseFile 0 text).map Prod.fst

end CallSites.Source
