/-! # Shapes

What is kept of the parts of a text while a mistake in it is looked for: where a part starts, and as
much of its form as decides whether it may be assigned to.
-/

namespace CallSites.Source.Blame

/-- The form of a part of a text with the row it starts in. -/
inductive Shape where
  /-- Nothing, where something optional could stand. -/
  | absent
  /-- A word, or something else that is no expression. -/
  | token (row : Nat)
  /-- An expression that is none of the following. -/
  | value (row : Nat)
  | name (row : Nat) (text : String)
  /-- A member or an item of something. -/
  | place (row : Nat)
  | starred (row : Nat) (operand : Shape)
  /-- A tuple or a list. -/
  | display (row : Nat) (items : List Shape)
  | comparison (row : Nat) (left : Shape) (isMembership : Bool)
  /-- An operator of a comparison with its right side. -/
  | compared (row : Nat) (isMembership : Bool)
  /-- The arguments of a call; only those without a keyword are kept. -/
  | arguments (row : Nat) (items : List Shape)
  /-- Parts one after the other. -/
  | parts (items : List Shape)
deriving Inhabited

namespace Shape

mutual

/-- The row in which a part starts, unless it is empty. -/
def row? : Shape → Option Nat
  | absent => none
  | token row | value row | name row _ | place row | starred row _ | display row _
  | comparison row _ _ | compared row _ | arguments row _ => some row
  | parts items => firstRow? items

def firstRow? : List Shape → Option Nat
  | [] => none
  | item :: rest => (row? item).or (firstRow? rest)

end

mutual

/-- The expressions among some parts. -/
def expressions : Shape → List Shape
  | absent | token _ | compared .. | arguments .. => []
  | parts items => allExpressions items
  | shape => [shape]

def allExpressions : List Shape → List Shape
  | [] => []
  | item :: rest => expressions item ++ allExpressions rest

end

end Shape

/-- What an expression is to be used as. -/
inductive Use where
  | assigned | iterated | deleted
deriving DecidableEq, Repr

mutual

/-- The row of the first part of an expression that cannot be used so. The target of a loop was read
as the left side of a membership test. -/
def unusableRow? (use : Use) : Shape → Option Nat
  | .name .. | .place _ | .absent => none
  | .display _ items => firstUnusableRow? use items
  | .starred row operand => if use = .deleted then some row else unusableRow? use operand
  | .comparison row left isMembership =>
    if use = .iterated then if isMembership then unusableRow? use left else none else some row
  | .parts items => firstUnusableRow? use items
  | .token row | .value row | .compared row _ | .arguments row _ => some row

def firstUnusableRow? (use : Use) : List Shape → Option Nat
  | [] => none
  | item :: rest => (unusableRow? use item).or (firstUnusableRow? use rest)

end

end CallSites.Source.Blame
