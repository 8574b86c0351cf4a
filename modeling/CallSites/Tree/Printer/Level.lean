import CallSites.Tree.Kind

/-! # Levels of binding

How tightly expressions hold together, and the operators with their spelling and their level. An
expression is put in parentheses where its place asks for a tighter level than its own.
-/

namespace CallSites.Tree

/-- Levels of binding, loosest first. -/
abbrev Level := Nat

namespace Level

def named : Level := 1
def tuple : Level := 2
def yield : Level := 3
def test : Level := 4
def or : Level := 5
def and : Level := 6
def not : Level := 7
def compare : Level := 8
def bitOr : Level := 9
def bitXor : Level := 10
def bitAnd : Level := 11
def shift : Level := 12
def arith : Level := 13
def term : Level := 14
def factor : Level := 15
def power : Level := 16
def await : Level := 17
def atom : Level := 18

/-- The next tighter level; nothing binds tighter than an atom. -/
def next (level : Level) : Level := min (level + 1) atom

end Level

namespace Printer

/-- The spelling and the level of a binary operator. -/
def binary? : Kind → Option (String × Level)
  | .add => some ("+", .arith)
  | .sub => some ("-", .arith)
  | .mult => some ("*", .term)
  | .matMult => some ("@", .term)
  | .div => some ("/", .term)
  | .mod => some ("%", .term)
  | .lShift => some ("<<", .shift)
  | .rShift => some (">>", .shift)
  | .bitOr => some ("|", .bitOr)
  | .bitXor => some ("^", .bitXor)
  | .bitAnd => some ("&", .bitAnd)
  | .floorDiv => some ("//", .term)
  | .pow => some ("**", .power)
  | _ => none

/-- The levels of the operands of a binary operator. Operators group to the left, but for the
power. -/
def operandLevels (op : String × Level) : Level × Level :=
  if op.1 = "**" then (op.2.next, op.2) else (op.2, op.2.next)

/-- The spelling and the level of a unary operator. -/
def unary? : Kind → Option (String × Level)
  | .invert => some ("~", .factor)
  | .not => some ("not ", .not)
  | .uAdd => some ("+", .factor)
  | .uSub => some ("-", .factor)
  | _ => none

/-- The spelling of a comparison. -/
def comparison? : Kind → Option String
  | .eq => some "=="
  | .notEq => some "!="
  | .lt => some "<"
  | .ltE => some "<="
  | .gt => some ">"
  | .gtE => some ">="
  | .same => some "is"
  | .notSame => some "is not"
  | .isIn => some "in"
  | .notIn => some "not in"
  | _ => none

/-- The spelling and the level of a boolean operator. -/
def boolean? : Kind → Option (String × Level)
  | .and => some ("and", .and)
  | .or => some ("or", .or)
  | _ => none

end Printer

end CallSites.Tree
