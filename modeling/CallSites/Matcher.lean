import CallSites.Options
import CallSites.Signature
import CallSites.Tree.Depth
import CallSites.Tree.Equality
import CallSites.Tree.Printer

/-! # Matchers

A matcher is compiled from a signature. It accepts the calls with the same callee and a suitable
number of arguments, and says which parameter an argument of such a call fills.
-/

namespace CallSites

open CallSites.Tree (TraversalKeys Value)

/-- A compiled signature. -/
structure Matcher where
  /-- The call that the signature consists of. -/
  call : Value
  /-- The source text of the signature. -/
  signature : String
  /-- The table by which depths are measured. -/
  keys : TraversalKeys
  /-- The declared parameters in order. -/
  parameters : List Parameter

namespace Matcher

/-- The callee of a call; something that is no node is no callee. -/
def callee? (v : Value) : Option Value :=
  if v.isKind .call then (v.attr? "func").filter Value.isNode else none

/-- The positional arguments of a call; something that is no list holds none. -/
def arguments? (v : Value) : Option (List Value) :=
  if v.isKind .call then (v.attr? "args").bind Value.items? else none

/-- The callee of the signature as it was written. -/
def func (matcher : Matcher) : Value := matcher.call.attr "func"

/-- The callee of the signature without marks. -/
def callee (matcher : Matcher) : Value := matcher.func.purify

/-- The depth of the callee. -/
def calleeDepth (matcher : Matcher) : Nat := matcher.func.depth matcher.keys none

/-- How many arguments a call needs. -/
def minArgs (matcher : Matcher) : Nat := matcher.parameters.countP fun p => !p.isOptional

/-- How many arguments a call may have. -/
def maxArgs (matcher : Matcher) : Nat := matcher.parameters.length

/-- Compiles a call, which has to be a signature, with a table or the standard one. -/
def ofCall (call : Value) (keys : Option TraversalKeys) : Except Fault Matcher := do
  Signature.validate none call
  let arguments ← Signature.elements (← Signature.required call "args")
  let parameters ← arguments.mapM Parameter.ofArgument
  let signature ← call.source
  return ⟨call, signature, Options.inUse keys, parameters⟩

/-- Compiles the text of a signature, read by a parser of files. -/
def compileBy (parser : Source.FileParser) (text : Text.GivenText) (keys : Option TraversalKeys) :
    Except Fault Matcher := do
  ofCall (← Signature.parseBy parser text) keys

/-- Compiles the text of a signature. -/
def compile (text : String) (keys : Option TraversalKeys) : Except Fault Matcher :=
  compileBy Source.parser (.chars text) keys

/-- The arguments of a call with the callee of the signature. The depth is compared first, since
that is cheap. -/
def matchedArgs? (matcher : Matcher) (v : Value) : Option (List Value) :=
  match callee? v, arguments? v with
  | some func, some arguments =>
    if func.hasDepth matcher.keys matcher.calleeDepth && matcher.callee.equal func then
      some arguments
    else none
  | _, _ => none

/-- Whether a value is a call that matches the signature. -/
def test (matcher : Matcher) (v : Value) : Bool :=
  match matcher.matchedArgs? v with
  | some arguments =>
    decide (matcher.minArgs ≤ arguments.length) && decide (arguments.length ≤ matcher.maxArgs)
  | none => false

/-- The parameters that are filled when `spare` optional ones are, in declared order. -/
def fill : Nat → List Parameter → List Parameter
  | _, [] => []
  | spare, parameter :: rest =>
    if parameter.isOptional then
      match spare with
      | 0 => fill 0 rest
      | spare + 1 => parameter :: fill spare rest
    else parameter :: fill spare rest

/-- The parameters that a call with the given number of arguments fills: all mandatory ones, and
as many optional ones as arguments are left, in declared order. -/
def filled (matcher : Matcher) (count : Nat) : List Parameter :=
  fill (count - matcher.minArgs) matcher.parameters

/-- Where an object first stands in a list. -/
def indexOf? (items : List Value) (target : Value) : Option Nat :=
  items.findIdx? fun item => item.same target

/-- Whether an object is the callee of a call. -/
def isCalleeOf (node parent : Value) : Bool :=
  !node.isNull && (callee? parent).any fun func => func.same node

/-- The parameter that an object fills as an argument of a call. There is none if it is the callee
of the call, if the call does not match, or if it is no argument of it. -/
def parameterOf? (matcher : Matcher) (node parent : Value) : Option Parameter :=
  if isCalleeOf node parent then none
  else if matcher.test parent then do
    let arguments ← arguments? parent
    let index ← indexOf? arguments node
    (matcher.filled arguments.length)[index]?
  else none

/-- How a matcher shows itself. -/
def display (matcher : Matcher) : String := "Matcher(" ++ Text.quoted matcher.signature ++ ")"

/-- What is logged when a signature is compiled. -/
def summary (matcher : Matcher) : String :=
  "compiled signature " ++ matcher.signature ++ ": callee depth " ++
    toString matcher.calleeDepth ++ ", " ++ toString matcher.minArgs ++ ".." ++
    toString matcher.maxArgs ++ " arguments"

end Matcher

end CallSites
