import CallSites.Tree.Kind
import CallSites.Tree.Plain

/-! # Syntax trees

A tree is made of nodes, lists and plain values. A node holds one slot for each field of its kind
and, beside them, its marks: attributes such as source positions that are no part of the syntax.
A slot may be empty, which differs from a slot that holds null. Every value carries a tag: two
occurrences are the same object when their tags agree, or when they hold one plain value that
exists only once.
-/

namespace CallSites.Tree

/-- A plain value, a list of values, or a node. -/
inductive Value where
  | plain (tag : Nat) (content : Plain)
  | list (tag : Nat) (items : List Value)
  | node (tag : Nat) (kind : Kind) (slots : List (Option Value)) (marks : List (String × Value))
deriving Inhabited

namespace Value

/-- Null as a value. -/
def null : Value := plain 0 .null

/-- A whole number as a value. -/
def int (n : Int) : Value := plain 0 (.int n)

/-- A text as a value. -/
def str (s : String) : Value := plain 0 (.str s)

/-- What an empty or a filled slot reads as: an empty one reads as null. -/
def reading (slot : Option Value) : Value := slot.getD null

/-- The kind of a node. -/
def kind? : Value → Option Kind
  | node _ kind _ _ => some kind
  | _ => none

/-- The content of a plain value. -/
def plain? : Value → Option Plain
  | plain _ content => some content
  | _ => none

/-- The text that a value is. -/
def text? : Value → Option String
  | plain _ (.str s) => some s
  | _ => none

/-- The code points of the text that a value is. -/
def codes? (v : Value) : Option (List Nat) := v.plain?.bind Plain.codes?

/-- The values that a value runs through. -/
def elements? : Value → Option (List Value)
  | list _ items => some items
  | plain _ content => content.elements?.map fun found => found.map (plain 0)
  | node .. => none

def isNode : Value → Bool
  | node .. => true
  | _ => false

def isNull : Value → Bool
  | plain _ .null => true
  | _ => false

/-- Whether a value is a node of the given kind. -/
def isKind (kind : Kind) (v : Value) : Bool := v.kind? == some kind

/-- Whether a value is a node whose kind is a kind of expression. -/
def isExpression : Value → Bool
  | node _ kind _ _ => kind.isExpression
  | _ => false

/-- The slot that belongs to the field `name`, when `names` lists the fields of the slots. -/
def slot? (name : String) : List String → List (Option Value) → Option Value
  | field :: names, slot :: slots => if field = name then slot else slot? name names slots
  | _, _ => none

/-- The attribute `name` of a node: a field if its kind has one of that name or knows one by it,
else a mark. -/
def attr? (v : Value) (name : String) : Option Value :=
  match v with
  | node _ kind slots marks =>
    let field := kind.fieldNamed name
    if field ∈ kind.fields then slot? field kind.fields slots else marks.lookup name
  | _ => none

/-- The attribute `name`, where one that is not there reads as null. -/
def attr (v : Value) (name : String) : Value := reading (v.attr? name)

/-- The items of a list value. -/
def items? : Value → Option (List Value)
  | list _ items => some items
  | _ => none

/-- Builds a node from named attributes. Fields go to their slots, all else becomes a mark, and an
optional field that is not named holds null. Of two attributes for one field the last counts. -/
def ofAttributes (tag : Nat) (kind : Kind) (attributes : List (String × Value)) : Value :=
  let named := attributes.map fun (name, v) => (kind.fieldNamed name, v)
  let slot (field : String) : Option Value :=
    match named.reverse.lookup field with
    | some v => some v
    | none => if field ∈ kind.optional then some null else none
  node tag kind (kind.fields.map slot) (named.filter fun (name, _) => name ∉ kind.fields)

/-- The name of a value's type, as messages give it. -/
def typeName : Value → String
  | plain _ content => content.typeName
  | list .. => "list"
  | node _ kind _ _ => kind.label

/-- Whether a value counts as true where a truth value is asked for: what is empty does not. -/
def truthy : Value → Bool
  | plain _ content => content.truthy
  | list _ items => !items.isEmpty
  | node .. => true

/-- Whether two values are one object. They are told apart by their tags, but a plain value that
exists only once is the same wherever it occurs, and values with different contents are two objects
whatever their tags are. -/
def same : Value → Value → Bool
  | plain tag a, plain tag' b => a == b && (a.isShared || tag == tag')
  | list tag _, list tag' _ => tag == tag'
  | node tag _ _ _, node tag' _ _ _ => tag == tag'
  | _, _ => false

/-- Every object is itself. -/
theorem same_self (v : Value) : same v v = true := by
  cases v <;> simp [same]

mutual

/-- Gives the values of a tree new tags, counted upwards in order from `next`, and returns the tree
with the first number that is still free. -/
def retag (next : Nat) : Value → Value × Nat
  | plain _ content => (plain next content, next + 1)
  | list _ items =>
    let (items, free) := retagItems (next + 1) items
    (list next items, free)
  | node _ kind slots marks =>
    let (slots, free) := retagSlots (next + 1) slots
    (node next kind slots marks, free)

def retagItems (next : Nat) : List Value → List Value × Nat
  | [] => ([], next)
  | v :: rest =>
    let (v, next) := retag next v
    let (rest, next) := retagItems next rest
    (v :: rest, next)

def retagSlots (next : Nat) : List (Option Value) → List (Option Value) × Nat
  | [] => ([], next)
  | none :: rest =>
    let (rest, next) := retagSlots next rest
    (none :: rest, next)
  | some v :: rest =>
    let (v, next) := retag next v
    let (rest, next) := retagSlots next rest
    (some v :: rest, next)

end

mutual

/-- The tree with the same kinds, fields and plain values, and no marks anywhere. -/
def purify : Value → Value
  | plain tag content => plain tag content
  | list tag items => list tag (purifyItems items)
  | node tag kind slots _ => node tag kind (purifySlots slots) []

def purifyItems : List Value → List Value
  | [] => []
  | v :: rest => purify v :: purifyItems rest

def purifySlots : List (Option Value) → List (Option Value)
  | [] => []
  | none :: rest => none :: purifySlots rest
  | some v :: rest => some (purify v) :: purifySlots rest

end

mutual

/-- How deeply lists and nodes nest in the slots of a value. -/
def height : Value → Nat
  | plain .. => 1
  | list _ items => itemsHeight items + 1
  | node _ _ slots _ => slotsHeight slots + 1

def itemsHeight : List Value → Nat
  | [] => 0
  | v :: rest => max (height v) (itemsHeight rest)

def slotsHeight : List (Option Value) → Nat
  | [] => 0
  | none :: rest => slotsHeight rest
  | some v :: rest => max (height v) (slotsHeight rest)

end

end Value

end CallSites.Tree
