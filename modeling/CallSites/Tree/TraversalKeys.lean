import CallSites.Tree.Kind

/-! # Traversal tables

A traversal table says which fields count as structure, for each kind of node. The standard table
follows every field of the grammar but the context markers.
-/

namespace CallSites.Tree

/-- A table from the names of kinds to the field names that are followed, in order. -/
structure TraversalKeys where
  rows : List (String × List String)
deriving DecidableEq, Repr, Inhabited

namespace TraversalKeys

/-- The field names that are followed for a kind; a kind without a row has none. -/
def row (keys : TraversalKeys) (kind : Kind) : List String :=
  (keys.rows.lookup kind.label).getD []

/-- The table of `root` and all kinds in it, read off the grammar without the excluded fields. -/
def build (root : Kind) (excluded : List String) : TraversalKeys :=
  ⟨(Kind.all.filter (Kind.within root)).map fun kind =>
    (kind.label, kind.fields.filter (· ∉ excluded))⟩

/-- Context markers are no structure. -/
def contextFields : List String := ["ctx"]

/-- The table that is used when none is given. -/
def standard : TraversalKeys := build .anyNode contextFields

/-- Whether two tables have the same rows; the order of the rows does not matter. -/
def sameTable (left right : TraversalKeys) : Bool :=
  left.rows.length == right.rows.length &&
    left.rows.all fun (kind, fields) => right.rows.lookup kind == some fields

end TraversalKeys

end CallSites.Tree
