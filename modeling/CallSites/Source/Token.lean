import CallSites.Source.Expr

/-! # Tokens

The words of the analysed language with their positions. Lines and their indentation show up as
tokens too. A text that cannot be split further ends in a broken token.
-/

namespace CallSites.Source

/-- One part of a string literal: text or bytes. -/
inductive StringPart where
  | text (codes : List Nat) (marked : Bool)
  | bytes (data : List UInt8)
  /-- A formatted string: whether it is raw, the number of characters before its body, and the
  body. -/
  | formatted (raw : Bool) (opening : Nat) (body : List Char)
  /-- The part holds a malformed escape. -/
  | malformed
  /-- The part is a malformed formatted string. A mistake in the expression of a replacement field
  is in the given row. -/
  | misformatted (row : Option Nat)
  /-- The part should be bytes and holds a character beyond ASCII. -/
  | foreign
deriving DecidableEq, Repr

/-- Why and where splitting a text into tokens stops. -/
structure Breakage where
  /-- The row to blame when the parser gets here. -/
  row : Nat
  /-- Whether the breakage is blamed even for a mistake that comes before it. -/
  prevails : Bool
  /-- The row of the innermost bracket that is still open. -/
  openRow : Option Nat
deriving DecidableEq, Repr

/-- What a token is. -/
inductive Word where
  | name (text : String)
  | literal (value : Literal)
  /-- A whole number with too many digits. -/
  | oversized
  | string (part : StringPart)
  | symbol (text : String)
  | newline
  | indent
  | dedent
  | finish
  | broken (why : Breakage)
deriving DecidableEq, Repr

/-- A word with the positions of its ends. A formatted string comes with its parts, once these have
been read. -/
structure Token where
  word : Word
  start : Pos
  stop : Pos
  parts : List FormattedPart

/-- A word between two positions. -/
def Token.of (word : Word) (start stop : Pos) : Token := ⟨word, start, stop, []⟩

@[simp] theorem Token.word_of (word : Word) (start stop : Pos) :
    (Token.of word start stop).word = word := rfl

end CallSites.Source
