import CallSites.Source.Blame.Rules.Statement

/-! # Rules for mistakes

What a text looks like that is wrong in a common way, and which part of it is to blame. A word that
is missing at the end of a line, or a block that is missing after it, is blamed on the last word
that was looked at.
-/

namespace CallSites.Source.Blame

open Rule

/-- The end of a line where a block should follow and does not. -/
def missingBlock : List Phrase := [":", .newline, .notAhead .indent]

/-- A line without the colon at its end. -/
def lacksColon (phrases : List Phrase) : Alternative := .wrong .last (phrases ++ [Phrase.newline])

/-- A line after which a block should follow and does not. -/
def lacksBlock (phrases : List Phrase) : Alternative := .wrong .last (phrases ++ missingBlock)

/-- What follows neither an assignment nor a named value. -/
def noAssignment : Phrase := .notAhead (anyOf ["=", ":="])

/-- A context manager with or without a target. -/
def managed (manager : Rule) : Phrase := inRow [manager, .opt (inRow ["as", starTarget])]

/-- Context managers from `with` on. -/
def withStart : List Phrase := [.opt "async", "with", .listOf "," (managed expression)]

/-- Context managers in parentheses from `with` on. -/
def groupedWithStart : List Phrase :=
  [.opt "async", "with", "(", .listOf "," (managed expressions), .opt ",", ")"]

/-- A loop up to its colon. -/
def loopStart : List Phrase := [.opt "async", "for", starTargets, "in", starExpressions]

/-- The rules for mistakes in expressions. -/
def expressionMistakes : Rule → List Alternative
  | .badArguments => [
    .wrong (.part 0) [args, ",", "*"],
    .wrong (.part 0) [expression, clauses, ",", .opt (.oneOf [[args], [expression, clauses]])],
    .wrong (.part 0) [.name, "=", expression, clauses],
    .wrong .lastArgument [args, clauses],
    .wrong (.part 2) [args, ",", expression, clauses],
    .wrong .last [args, ",", args]]
  | .badKeyword => [
    .wrong (.part 0) [anyOf ["True", "False", "None"], "="],
    .wrong (.part 0) [.name, "=", expression, clauses],
    .wrong (.part 1) [.notAhead (inRow [.name, "="]), expression, "="]]
  | .badExpression => [
    .wrong .lacksComma [.notAhead (.oneOf [[.name, .string], [.softName]]), disjunction,
      quietExpression],
    .wrong (.part 0) [disjunction, "if", disjunction, .notAhead (anyOf ["else", ":"])]]
  | .badPrint => [.wrong .oldStatement [.name, .notAhead "(", starExpressions]]
  | .badNamed => [
    .wrong (.part 0) [expression, ":=", expression],
    .wrong (.part 0) [.name, "=", bitOr, noAssignment],
    .wrong (.part 1) [
      .notAhead (anyOf [listDisplay, tupleDisplay, generator, "True", "None", "False"]),
      bitOr, "=", bitOr, noAssignment]]
  | .badComprehension => [
    .wrong (.part 1) [anyOf ["[", "(", "\x7b"], starredArg, clauses],
    .wrong (.part 1) [anyOf ["[", "\x7b"], starNamed, ",", starNamedList, clauses],
    .wrong (.part 1) [anyOf ["[", "\x7b"], starNamed, ",", clauses]]
  | .badDictComp => [.wrong (.part 1) ["\x7b", "**", bitOr, clauses, "\x7d"]]
  | .badForTarget => [.wrong (.unusable .iterated 2) [.opt "async", "for", starExpressions]]
  | .badGroup => [
    .wrong (.part 1) ["(", starredArg, ")"],
    .wrong (.part 1) ["(", "**", expression, ")"]]
  | .badDictEntries => [
    plainly [.listOf "," dictEntry, ",", badDictEntry],
    .wrong (.part 2) [expression, ":", "*", bitOr],
    .wrong (.part 1) [expression, ":", .ahead (anyOf ["\x7d", ","])]]
  | .badDictEntry => [
    .wrong (.part 0) [expression, .notAhead ":"],
    .wrong (.part 2) [expression, ":", "*", bitOr],
    .wrong (.part 1) [expression, ":", .ahead (anyOf ["\x7d", ","])]]
  | .badDefault => [.wrong (.part 0) ["=", .ahead (anyOf [")", ","])]]
  | .badAsPattern => [
    .wrong (.part 2) [orPattern, "as", .soft "_"],
    .wrong (.part 3) [orPattern, "as", .notAhead .name, expression]]
  | .badClassPattern => [.wrong (.part 2) [nameOrDotted, "(", badClassArguments]]
  | .badClassArguments => [
    .reads (.part 3) [.opt (inRow [positionalPatterns, ","]), keywordPatterns, ",",
      positionalPatterns]]
  | _ => []

/-- The rules for mistakes in statements. -/
def statementMistakes : Rule → List Alternative
  | .badAssignment => [
    .wrong (.part 0) [badHintTarget, ":", expression],
    .wrong (.part 0) [starNamed, ",", .many starNamedList, ":", expression],
    .wrong (.part 0) [expression, ":", expression],
    .wrong (.unusable .assigned 1) [.many (inRow [starTargets, "="]), starExpressions, "="],
    .wrong (.part 1) [.many (inRow [starTargets, "="]), yielding, "="],
    .wrong (.part 0) [starExpressions, update, assignedValue]]
  | .badHintTarget => [
    plainly [listDisplay],
    plainly [tupleDisplay],
    .reads (.part 1) ["(", badHintTarget, ")"]]
  | .badDeletion => [.wrong (.unusable .deleted 1) ["del", starExpressions]]
  | .badBlock => [.wrong .last [.newline, .notAhead .indent]]
  | .badImportedNames => [.wrong .last [importedList, ",", .newline]]
  | .badWithItem => [
    .wrong (.unusable .assigned 2) [expression, "as", expression, withItemEnd]]
  | .badWith => [
    lacksColon withStart,
    lacksColon groupedWithStart]
  | .badWithBlock => [
    lacksBlock withStart,
    lacksBlock groupedWithStart]
  | .badTry => [
    lacksBlock ["try"],
    .wrong .last ["try", ":", block, .notAhead (anyOf ["except", "finally"])],
    .wrong .last ["try", ":", .many block,
      .oneOf [[.some handler, groupHandler], [.some groupHandler, handler]], .many block]]
  | .badHandler => [
    .wrong (.part 2) ["except", .opt "*", expression, ",", expressions, asName, ":"],
    lacksColon ["except", .opt "*", expression, asName],
    lacksColon ["except"],
    .wrong .last ["except", "*", anyOf [.newline, ":"]]]
  | .badFinally => [lacksBlock ["finally"]]
  | .badHandlerBlock => [
    lacksBlock ["except", expression, asName],
    lacksBlock ["except"]]
  | .badGroupHandlerBlock => [lacksBlock ["except", "*", expression, asName]]
  | .badMatch => [
    lacksColon [.soft "match", subject],
    lacksBlock [.soft "match", subject]]
  | .badCase => [
    lacksColon [.soft "case", patterns, .opt caseGuard],
    lacksBlock [.soft "case", patterns, .opt caseGuard]]
  | .badIf => [
    lacksColon ["if", named],
    lacksBlock ["if", named]]
  | .badElif => [
    lacksColon ["elif", named],
    lacksBlock ["elif", named]]
  | .badElse => [lacksBlock ["else"]]
  | .badWhile => [
    lacksColon ["while", named],
    lacksBlock ["while", named]]
  | .badFor => [
    lacksColon loopStart,
    lacksBlock loopStart]
  | .badFunction => [
    lacksBlock [.opt "async", "def", .name, "(", .opt (param false .checked), ")",
      .opt (inRow ["->", expression])]]
  | .badClass => [
    lacksColon ["class", .name, classArguments],
    lacksBlock ["class", .name, classArguments]]
  | _ => []

end CallSites.Source.Blame
