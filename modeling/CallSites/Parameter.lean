import CallSites.Fault
import CallSites.Tree.Equality

/-! # Parameters

A signature declares parameters: `name` for one that every call must fill, `[name]` for one that
a call may leave out. A name that is read off a tree may be any value; in parsed text it is a text.
-/

namespace CallSites

open CallSites.Tree (Value)

/-- How a signature declares a parameter. -/
inductive ParameterKind where
  | mandatory | optional
deriving DecidableEq, Repr

namespace ParameterKind

/-- The name of a kind in answers. -/
def label : ParameterKind → String
  | mandatory => "mandatory"
  | optional => "optional"

/-- The kind with a given name. -/
def ofLabel? (label : String) : Option ParameterKind :=
  [mandatory, optional].find? fun kind => kind.label == label

end ParameterKind

/-- A declared parameter. -/
structure Parameter where
  name : Value
  kind : ParameterKind

namespace Parameter

def isOptional (parameter : Parameter) : Bool := parameter.kind == .optional

/-- Whether two parameters are declared alike. -/
def same (left right : Parameter) : Bool :=
  left.name.alike right.name && left.kind == right.kind

/-- A parameter from a name, which must not be empty, and what was given as its kind: a kind, or
the name of some other value's type. -/
def make (name : Value) (kind : Except String ParameterKind) : Except Fault Parameter :=
  if !name.truthy then .error (.emptyText .parameterName)
  else match kind with
    | .ok kind => .ok ⟨name, kind⟩
    | .error typeName => .error (.notParameterKind typeName)

/-- The name in a name node. -/
def nameIn? (v : Value) : Option Value :=
  if v.isKind .name then v.attr? "id" else none

/-- The only item of a list display. -/
def onlyItem? (v : Value) : Option Value :=
  if v.isKind .list then
    match v.attr? "elts" with
    | some (.list _ [item]) => some item
    | _ => none
  else none

/-- The name that an argument of a signature declares: `name` or `[name]`. -/
def declaredName? (argument : Value) : Option Value :=
  (nameIn? argument).or ((onlyItem? argument).bind nameIn?)

/-- The parameter that an argument of a signature declares. -/
def ofArgument (argument : Value) : Except Fault Parameter :=
  match nameIn? argument with
  | some name => make name (.ok .mandatory)
  | none =>
    match (onlyItem? argument).bind nameIn? with
    | some name => make name (.ok .optional)
    | none => .error (.diagnosed (.badArgument none))

end Parameter

end CallSites
