import CallSites.Parameter
import CallSites.Source.Parse
import CallSites.Text.Character

/-! # Signatures

A signature is one call whose arguments are all of the form `name` or `[name]`, with distinct names
and without keyword arguments. `validate` finds the first violation, from left to right.
-/

namespace CallSites

/-- How a mistake in a file is described: with what is wrong, the name of the file and the line. -/
def Source.Mistake.described (found : Source.Mistake) (filename : Text.GivenText) :
    Text.GivenText :=
  .chars (found.message ++ " (") ++ Diagnosis.baseName filename ++
    .chars (", line " ++ toString found.line ++ ")")

theorem Source.Mistake.isEmpty_described (found : Mistake) (filename : Text.GivenText) :
    (found.described filename).isEmpty = false := by
  have worded : (found.message ++ " (").isEmpty = false := by
    rw [String.isEmpty_eq_false_iff]
    intro empty
    simpa using congrArg String.toList empty
  simp [described, worded]

namespace Signature

open CallSites.Tree (Value)

/-- The attribute of a value; a value without it is at fault. -/
def required (v : Value) (name : String) : Except Fault Value :=
  match v.attr? name with
  | some attr => .ok attr
  | none => .error (.missingAttribute v.typeName name)

/-- The values that a value runs through. -/
def elements (v : Value) : Except Fault (List Value) :=
  match v.elements? with
  | some items => .ok items
  | none => .error (.notIterable v.typeName)

/-- The name that an argument declares, or the fault of an argument of another form. -/
def argumentName (text : Option String) (argument : Value) : Except Fault Value :=
  match Parameter.declaredName? argument with
  | some name => .ok name
  | none => .error (.diagnosed (.badArgument text))

/-- The fault of a name that was declared before: it can only be stated of a text. -/
def duplicate (text : Option String) (name : Value) : Fault :=
  match name with
  | .plain _ (.str s) => .ofDiagnosis (Diagnosis.duplicateName? s text)
  | .plain _ (.surrogates s) => .ofDiagnosis (Diagnosis.duplicateName? (.surrogates s) text)
  | _ => if name.truthy then .notText name.typeName else .emptyText .name

/-- The names that arguments declare, after those that were declared before. The first argument of
another form or with a name declared before is at fault, and so is a list as a name. -/
def declaredNames (text : Option String) : List Value → List Value → Except Fault (List Value)
  | names, [] => .ok names
  | names, argument :: rest => do
    let name ← argumentName text argument
    match name with
    | .list .. => .error (.notKey name.typeName)
    | _ =>
      if names.any fun other => other.alike name then .error (duplicate text name)
      else declaredNames text (names ++ [name]) rest

/-- Checks that a value is a signature. -/
def validate (text : Option String) (call : Value) : Except Fault Unit := do
  if call.isKind .call then
    let arguments ← elements (← required call "args")
    let _ ← declaredNames text [] arguments
    if (← required call "keywords").truthy then .error (.diagnosed (.badArgument text))
  else .error (.diagnosed (.notCall text))

/-- The value of the only statement, if that is an expression. -/
def onlyExpression? (body : Value) : Option Value :=
  match body with
  | .list _ [statement] => if statement.isKind .exprStmt then statement.attr? "value" else none
  | _ => none

/-- The call that a tree consists of, checked to be a signature. -/
def extract (text : Option String) (tree : Value) : Except Fault Value := do
  match (onlyExpression? (← required tree "body")).filter (Value.isKind .call) with
  | some call =>
    validate text call
    return call
  | none => .error (.diagnosed (.notCall text))

/-- The name of the file from which a signature is parsed. -/
def unknownFile : String := "<unknown>"

/-- Parses the text of a signature with a parser of files. Blank characters at its ends are
ignored. A text with lone surrogates is none that a parser could be given. -/
def parseBy (parser : Source.FileParser) : Text.GivenText → Except Fault Value
  | .chars text =>
    match parser (String.ofList (Text.strip text.toList)) unknownFile with
    | .ok tree => extract (some text) tree
    | .error .nullCharacter => .error .nullCharacter
    | .error (.mistake found) =>
      let reason :=
        if found.message.isEmpty then found.described unknownFile else .chars found.message
      .error (.ofDiagnosis (Diagnosis.unreadableSignature? text reason))
  | .surrogates _ => .error .loneSurrogate

/-- Parses the text of a signature. -/
def parse (text : String) : Except Fault Value := parseBy Source.parser (.chars text)

/-- Parses a value that should be the text of a signature. -/
def parseValue : Value → Except Fault Value
  | .plain _ (.str text) => parse text
  | .plain _ (.surrogates text) => parseBy Source.parser (.surrogates text)
  | v => .error (.signatureNotText v.typeName)

end Signature

end CallSites
