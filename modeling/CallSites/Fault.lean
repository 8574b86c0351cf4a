import CallSites.Tree.Display

/-! # Faults

What can go wrong, as causes. A diagnosis is a documented answer about a signature or a source;
every other fault says that a value was refused or that a tree lacks what an operation needs. The
wording of all of them stands in `Diagnosis.message` and `Fault.wording?`.
-/

namespace CallSites

open CallSites.Text (GivenText)
open CallSites.Tree (Plain Value)

/-- A text that must not be empty. -/
inductive RequiredText where
  | message | reason | name | filename | parameterName | tableKind | signature
deriving DecidableEq, Repr

/-- How messages call a required text. -/
def RequiredText.label : RequiredText → String
  | message => "message"
  | reason => "reason"
  | name => "name"
  | filename => "filename"
  | parameterName => "argument name"
  | tableKind => "traversal key node kind"
  | signature => "signature"

/-- A documented answer about a signature or a source that cannot be used. Answers about a
signature carry its text when there is one. A name, the name of a file and what is wrong may hold
lone surrogates. -/
inductive Diagnosis where
  /-- Any answer of the library. -/
  | general (message : String)
  /-- Any answer about a signature. -/
  | aboutSignature (message : String) (signature : Option String)
  /-- The signature cannot be parsed. -/
  | unreadableSignature (signature : String) (reason : GivenText)
  /-- The signature is not one call. -/
  | notCall (signature : Option String)
  /-- An argument of the signature is neither `name` nor `[name]`. -/
  | badArgument (signature : Option String)
  /-- Two arguments of the signature have one name. -/
  | duplicateName (name : GivenText) (signature : Option String)
  /-- The source cannot be parsed. -/
  | unreadableSource (filename reason : GivenText)
deriving DecidableEq, Repr

namespace Diagnosis

/-- The part of a path after its last slash. -/
def baseName (path : GivenText) : GivenText :=
  .ofCodes (path.codes.reverse.takeWhile (· != '/'.toNat)).reverse

def message : Diagnosis → GivenText
  | general message => message
  | aboutSignature message _ => message
  | unreadableSignature signature reason =>
    .chars ("Invalid signature " ++ Text.quoted signature ++ ": ") ++ reason
  | notCall _ => .chars "Argument should be in the form of CallExpression"
  | badArgument _ => .chars "Argument should be in the form of `name` or `[name]`"
  | duplicateName name _ => .chars "Duplicate argument name: " ++ name
  | unreadableSource filename reason =>
    .chars "Failed to parse " ++ filename ++ .chars ": " ++ reason ++ .chars " (" ++
      baseName filename ++ .chars ")"

/-- Whether the answer is about a signature, and then the text of that signature. -/
def signature? : Diagnosis → Option (Option String)
  | aboutSignature _ signature | notCall signature | badArgument signature
  | duplicateName _ signature => some signature
  | unreadableSignature signature _ => some (some signature)
  | general _ | unreadableSource .. => none

end Diagnosis

/-- Why a tree has no source text. -/
inductive Unprintable where
  /-- A value lacks an attribute that is printed. -/
  | missingAttribute
  /-- A value is of a type that cannot be used where it stands. -/
  | wrongType
  /-- An operator is none for the node that holds it. -/
  | unknownOperator
  /-- A value cannot be written down. -/
  | badValue
  /-- A number is too large to stand for a character. -/
  | tooLarge
  /-- The source text would hold a lone surrogate. -/
  | loneSurrogate
deriving DecidableEq, Repr

/-- The cause of a failed operation. -/
inductive Fault where
  /-- A documented answer. -/
  | diagnosed (diagnosis : Diagnosis)
  | emptyText (text : RequiredText)
  /-- Text to be parsed, or the name of its file, holds the null character. -/
  | nullCharacter
  /-- Text to be parsed holds a lone surrogate, so that it is no sequence of characters. -/
  | loneSurrogate
  | signatureNotText (typeName : String)
  | notParameterKind (typeName : String)
  /-- No parameter kind has this value. -/
  | unknownParameterKind
  /-- A row of a traversal table is a text. -/
  | rowNotSequence (kind : String)
  | lineNotPositive (line : Plain)
  | columnNegative (column : Plain)
  | endsBeforeStart (endLine line : Plain)
  /-- Two values cannot be compared, since one of them is no number. -/
  | notOrdered (operator leftType rightType : String)
  | missingParameter
  | notExpression (typeName : String)
  | notCallNode (typeName : String)
  | tooManyBindings (bindings arguments : Nat)
  | shownNegative (count : Plain)
  | widthNotPositive (width : Plain)
  /-- A value lacks an attribute that is needed. -/
  | missingAttribute (typeName name : String)
  /-- A limit is no whole number. -/
  | notIndex
  | notIterable (typeName : String)
  | noLength (typeName : String)
  /-- A value cannot be used as a key. -/
  | notKey (typeName : String)
  /-- A value cannot be appended to a text. -/
  | notText (typeName : String)
  /-- What should be walked is no node. -/
  | notNode
  /-- A tree has no source text. -/
  | unprintable (why : Unprintable)
deriving DecidableEq, Repr

namespace Fault

/-- The wording of a fault that is no diagnosis; some of them have none. -/
def wording? : Fault → Option String
  | emptyText text => some (text.label ++ " must not be empty")
  | diagnosed _ | nullCharacter | loneSurrogate | unknownParameterKind | notNode
  | unprintable _ => none
  | signatureNotText typeName => some ("signature must be str, got " ++ typeName)
  | notParameterKind typeName => some ("kind must be ArgumentKind, got " ++ typeName)
  | rowNotSequence kind =>
    some ("traversal keys for '" ++ kind ++ "' must be a sequence of field names")
  | lineNotPositive line => some ("line must be > 0, got " ++ line.shown)
  | columnNegative column => some ("column must be >= 0, got " ++ column.shown)
  | endsBeforeStart endLine line =>
    some ("end_line (" ++ endLine.shown ++ ") must be >= line (" ++ line.shown ++ ")")
  | notOrdered operator leftType rightType =>
    some ("'" ++ operator ++ "' not supported between instances of '" ++ leftType ++ "' and '" ++
      rightType ++ "'")
  | missingParameter => some "parameter must not be None"
  | notExpression typeName => some ("node must be ast.expr, got " ++ typeName)
  | notCallNode typeName => some ("call must be ast.Call, got " ++ typeName)
  | tooManyBindings bindings arguments =>
    some (toString bindings ++ " bindings for call with " ++ toString arguments ++ " arguments")
  | shownNegative count => some ("max_matches must be >= 0, got " ++ count.shown)
  | widthNotPositive width => some ("width must be > 0, got " ++ width.shown)
  | missingAttribute typeName name =>
    some ("'" ++ typeName ++ "' object has no attribute '" ++ name ++ "'")
  | notIndex => some "slice indices must be integers or None or have an __index__ method"
  | notIterable typeName => some ("'" ++ typeName ++ "' object is not iterable")
  | noLength typeName => some ("object of type '" ++ typeName ++ "' has no len()")
  | notKey typeName => some ("unhashable type: '" ++ typeName ++ "'")
  | notText typeName => some ("can only concatenate str (not \"" ++ typeName ++ "\") to str")

/-- The wording of a fault; some of them have none. -/
def message? : Fault → Option GivenText
  | diagnosed diagnosis => some diagnosis.message
  | fault => fault.wording?.map GivenText.chars

end Fault

namespace Diagnosis

/-- A general answer from its details: nothing, one value, or a row of them. -/
def ofDetails : List Value → Diagnosis
  | [] => general ""
  | [detail] => general detail.display
  | details => general ("(" ++ ", ".intercalate (details.map Value.displayItem) ++ ")")

/-- An answer about a signature in given words, which must not be empty. -/
def aboutSignature? (message : String) (signature : Option String) : Except Fault Diagnosis :=
  if message.isEmpty then .error (.emptyText .message) else .ok (.aboutSignature message signature)

/-- An unreadable signature; the reason must not be empty. -/
def unreadableSignature? (signature : String) (reason : GivenText) : Except Fault Diagnosis :=
  if reason.isEmpty then .error (.emptyText .reason)
  else .ok (.unreadableSignature signature reason)

/-- A repeated name, which must not be empty. -/
def duplicateName? (name : GivenText) (signature : Option String) : Except Fault Diagnosis :=
  if name.isEmpty then .error (.emptyText .name) else .ok (.duplicateName name signature)

/-- An unreadable source; neither the name of the file nor the reason may be empty. -/
def unreadableSource? (filename reason : GivenText) : Except Fault Diagnosis :=
  if filename.isEmpty then .error (.emptyText .filename)
  else if reason.isEmpty then .error (.emptyText .reason)
  else .ok (.unreadableSource filename reason)

end Diagnosis

/-- A number that can be compared with the other operand of `operator`. -/
def Fault.operand (operator : String) (v : Value) (rightType : String) :
    Except Fault (Plain × Extended) :=
  match v.plain? with
  | some content =>
    match content.number? with
    | some n => .ok (content, n)
    | none => .error (.notOrdered operator content.typeName rightType)
  | none => .error (.notOrdered operator v.typeName rightType)

/-- The fault that a diagnosis leads to: itself, or that it could not even be stated. -/
def Fault.ofDiagnosis (diagnosis : Except Fault Diagnosis) : Fault :=
  match diagnosis with
  | .ok diagnosis => .diagnosed diagnosis
  | .error fault => fault

end CallSites
