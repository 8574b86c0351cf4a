import CallSites.Match
import CallSites.Matcher
import CallSites.Tree.Walk

/-! # Scanning trees

`scan` reports the calls of a tree that matchers accept, in the order of the walk, and
`classify` every node that is an argument of an accepted call.
-/

namespace CallSites

open CallSites.Tree (TraversalKeys Value Visit)

namespace Scan

/-- The bindings of the arguments of an accepted call. -/
def bindings (matcher : Matcher) (call : Value) : List Value → Except Fault (List Binding)
  | [] => .ok []
  | argument :: rest =>
    match matcher.parameterOf? argument call with
    | none => bindings matcher call rest
    | some parameter => do
      let source ← argument.source
      let binding ← Binding.make (some parameter) argument source
      return binding :: (← bindings matcher call rest)

/-- The match of an accepted call. -/
def buildMatch (matcher : Matcher) (call : Value) : Except Fault Match := do
  let bindings ← bindings matcher call ((Matcher.arguments? call).getD [])
  let location ← Location.of call
  Match.make matcher.signature call location bindings

/-- The matches of one call, one for each matcher that accepts it. -/
def matchesOf (matchers : List Matcher) (call : Value) : Except Fault (List Match) :=
  (matchers.filter fun matcher => matcher.test call).mapM fun matcher => buildMatch matcher call

/-- The visits of a tree, which has to be a node. -/
def visits (tree : Value) : Except Fault (List Visit) :=
  if tree.isNode then .ok tree.walk else .error .notNode

end Scan

/-- The matches of all calls of a tree, in the order of the walk. -/
def scan (tree : Value) (matchers : List Matcher) : Except Fault (List Match) := do
  let calls := ((← Scan.visits tree).map fun visit => visit.node).filter (Value.isKind .call)
  let found ← calls.mapM (Scan.matchesOf matchers)
  return found.flatten

/-- What is logged when a scan is done. -/
def scanSummary (matches_ : List Match) (matchers : List Matcher) : String :=
  "scan found " ++ toString matches_.length ++ " matching call(s) for " ++
    toString matchers.length ++ " matcher(s)"

/-- The nodes of a tree that fill a parameter of the call that directly holds them, in the order
of the walk. -/
def classify (tree : Value) (matcher : Matcher) : Except Fault (List (Value × Parameter)) := do
  return (← Scan.visits tree).filterMap fun visit => do
    let parent ← visit.parent
    let parameter ← matcher.parameterOf? visit.node parent
    return (visit.node, parameter)

/-- Parses a source with a parser of files; one with a mistake is answered with the name of its file
and the mistake. A source with lone surrogates is none that a parser could be given; that shows
after a look at the name of its file. -/
def parseSource (parser : Source.FileParser) (source filename : Text.GivenText) :
    Except Fault Value :=
  match source with
  | .chars source =>
    match parser source filename with
    | .ok tree => .ok tree
    | .error .nullCharacter => .error .nullCharacter
    | .error (.mistake found) =>
      .error (.ofDiagnosis
        (Diagnosis.unreadableSource? filename
          (.chars "syntax error: " ++ found.described filename)))
  | .surrogates _ =>
    .error (if filename.holdsNull then .nullCharacter else .loneSurrogate)

/-- The matches of a signature in a source, with the matcher that found them. The parser of files
reads both. -/
def findCallsBy (parser : Source.FileParser) (source signature filename : Text.GivenText)
    (keys : Option TraversalKeys) : Except Fault (Matcher × List Match) := do
  let matcher ← Matcher.compileBy parser signature keys
  let tree ← parseSource parser source filename
  return (matcher, ← scan tree [matcher])

/-- The matches of a signature in a source, with the matcher that found them. -/
def findCalls (source signature filename : String) (keys : Option TraversalKeys) :
    Except Fault (Matcher × List Match) :=
  findCallsBy Source.parser (.chars source) (.chars signature) filename keys

end CallSites
