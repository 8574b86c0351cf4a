import CallSites.Location
import CallSites.Parameter

/-! # Matches

A match is a call that a signature accepts, with its location and the arguments bound to declared
parameters. Bindings and matches are only made if they pass their checks.
-/

namespace CallSites

open CallSites.Tree (Value)

/-- An argument bound to a parameter, with its source text. -/
structure Binding where
  parameter : Parameter
  node : Value
  source : String

namespace Binding

/-- A binding of a parameter, which has to be there, to an expression. -/
def make (parameter : Option Parameter) (node : Value) (source : String) : Except Fault Binding :=
  match parameter with
  | none => .error .missingParameter
  | some parameter =>
    if node.isExpression then .ok ⟨parameter, node, source⟩
    else .error (.notExpression node.typeName)

/-- The parameter with its argument; an optional parameter stands in brackets. -/
def text (binding : Binding) : String :=
  let name := binding.parameter.name.display
  (if binding.parameter.isOptional then "[" ++ name ++ "]" else name) ++ "=" ++ binding.source

end Binding

/-- A call that a signature accepts. -/
structure Match where
  signature : String
  call : Value
  location : Location
  bindings : List Binding

namespace Match

/-- The length of the arguments of a call. -/
def argumentCount (call : Value) : Except Fault Nat :=
  match call.attr? "args" with
  | none => .error (.missingAttribute call.typeName "args")
  | some v =>
    match v.elements? with
    | some items => .ok items.length
    | none => .error (.noLength v.typeName)

/-- A match of a signature, which must not be empty, and a call with at least as many arguments as
there are bindings. -/
def make (signature : String) (call : Value) (location : Location) (bindings : List Binding) :
    Except Fault Match :=
  if signature.isEmpty then .error (.emptyText .signature)
  else if !call.isKind .call then .error (.notCallNode call.typeName)
  else match argumentCount call with
    | .error fault => .error fault
    | .ok count =>
      if count < bindings.length then .error (.tooManyBindings bindings.length count)
      else .ok ⟨signature, call, location, bindings⟩

/-- The first binding of a parameter with the given name. -/
def binding? (found : Match) (name : Value) : Option Binding :=
  found.bindings.find? fun binding => binding.parameter.name.alike name

/-- Sets the text of a name: in place if the name is there, else at the end. -/
def put (name : Value) (source : String) : List (Value × String) → List (Value × String)
  | [] => [(name, source)]
  | (key, old) :: rest =>
    if key.alike name then (key, source) :: rest else (key, old) :: put name source rest

/-- The source texts by parameter name, which may be anything but a list. A repeated name keeps its
first place and its last text. -/
def arguments (found : Match) : Except Fault (List (Value × String)) :=
  found.bindings.foldlM (fun texts binding =>
    match binding.parameter.name with
    | .list .. => .error (.notKey binding.parameter.name.typeName)
    | name => .ok (put name binding.source texts)) []

/-- All bindings in one line. -/
def bindingsText (found : Match) : String := ", ".intercalate (found.bindings.map Binding.text)

end Match

end CallSites
