import CallSites.Source.Blame.Phrase

/-! # Rules for expressions

Each rule lists its alternatives in the order in which they are tried. Operators that group to the
left are chains of operands; their grouping does not matter here.
-/

namespace CallSites.Source.Blame

open Rule

/-- The operators that bind tighter than a comparison. -/
def operators : Phrase :=
  anyOf ["|", "^", "&", "<<", ">>", "+", "-", "*", "/", "//", "%", "@"]

/-- An argument without a star or a keyword. -/
def plainArgument : Phrase :=
  .oneOf [[namedPlainly], [expression, .notAhead ":="]]

/-- The rules for expressions. -/
def expressionRules : Rule → List Alternative
  | .expressions => [
    plainly [expression, .some (inRow [",", expression]), .opt ","],
    plainly [expression, ","],
    plainly [expression]]
  | .expression => [
    .suspect badExpression,
    .suspect badPrint,
    plainly [disjunction, "if", disjunction, "else", expression],
    plainly [disjunction],
    plainly [lambdaExpression]]
  | .quietExpression => [
    plainly [disjunction, "if", disjunction, "else", expression],
    plainly [disjunction],
    plainly [lambdaExpression]]
  | .yielding => [
    plainly ["yield", "from", expression],
    plainly ["yield", .opt starExpressions]]
  | .starExpressions => [
    .reads .display [starExpression, .some (inRow [",", starExpression]), .opt ","],
    .reads .display [starExpression, ","],
    plainly [starExpression]]
  | .starExpression => [
    .reads .starred ["*", bitOr],
    plainly [expression]]
  | .starNamedList => [.reads .parts [.listOf "," starNamed, .opt ","]]
  | .starNamed => [
    .reads .starred ["*", bitOr],
    plainly [named]]
  | .namedPlainly => [plainly [.name, ":=", .cut, expression]]
  | .named => [
    plainly [namedPlainly],
    .suspect badNamed,
    .reads (.part 0) [expression, .notAhead ":="]]
  | .disjunction => [
    .reads .chain [inversion, .many (inRow [anyOf ["and", "or"], inversion])]]
  | .inversion => [
    plainly ["not", inversion],
    .reads .comparison [bitOr, .some comparedWith],
    plainly [bitOr]]
  | .comparedWith => [
    .reads (.compared false) [anyOf ["==", "!=", "<=", "<", ">=", ">"], bitOr],
    .reads (.compared false) ["not", "in", bitOr],
    .reads (.compared true) ["in", bitOr],
    .reads (.compared false) ["is", "not", bitOr],
    .reads (.compared false) ["is", bitOr]]
  | .bitOr => [.reads .chain [factor, .many (inRow [operators, factor])]]
  | .factor => [
    plainly [anyOf ["+", "-", "~"], factor],
    .reads .chain [awaited, .opt (inRow ["**", factor])]]
  | .awaited => [
    plainly ["await", primary],
    plainly [primary]]
  | .primary => [.reads .trailed [atom, .many trailer]]
  | .trailer => [
    .reads .place [".", .name],
    plainly [generator],
    plainly ["(", .opt arguments, ")"],
    .reads .place ["[", slices, "]"]]
  | .slices => [
    plainly [slice, .notAhead ","],
    plainly [.listOf "," (anyOf [slice, starredArg]), .opt ","]]
  | .slice => [
    plainly [.opt expression, ":", .opt expression, .opt (inRow [":", .opt expression])],
    plainly [named]]
  | .atom => [
    plainly [.name],
    .reads .value [anyOf ["True", "False", "None"]],
    .reads (.part 1) [.ahead .string, .strings],
    plainly [.number],
    .reads (.part 1) [.ahead "(", anyOf [tupleDisplay, group, generator]],
    .reads (.part 1) [.ahead "[", anyOf [listDisplay, listComp]],
    .reads (.part 1) [.ahead "\x7b", anyOf [dictDisplay, setDisplay, dictComp, setComp]],
    .reads .value ["..."]]
  | .group => [
    .reads (.part 1) ["(", anyOf [yielding, named], ")"],
    .suspect badGroup]
  | .lambdaExpression => [plainly ["lambda", .opt (param true .checked), ":", expression]]
  | .listDisplay => [.reads .display ["[", .opt starNamedList, "]"]]
  | .tupleDisplay => [
    .reads .display ["(", .opt (inRow [starNamed, ",", .opt starNamedList]), ")"]]
  | .setDisplay => [plainly ["\x7b", starNamedList, "\x7d"]]
  | .dictDisplay => [
    plainly ["\x7b", .opt dictEntries, "\x7d"],
    plainly ["\x7b", badDictEntries, "\x7d"]]
  | .dictEntries => [plainly [.listOf "," dictEntry, .opt ","]]
  | .dictEntry => [
    plainly ["**", bitOr],
    plainly [keyValue]]
  | .keyValue => [plainly [expression, ":", expression]]
  | .clauses => [plainly [.some clause]]
  | .clause => [
    plainly ["async", "for", starTargets, "in", .cut, disjunction,
      .many (inRow ["if", disjunction])],
    plainly ["for", starTargets, "in", .cut, disjunction, .many (inRow ["if", disjunction])],
    .suspect badForTarget]
  | .listComp => [
    plainly ["[", named, clauses, "]"],
    .suspect badComprehension]
  | .setComp => [
    plainly ["\x7b", named, clauses, "\x7d"],
    .suspect badComprehension]
  | .generator => [
    plainly ["(", plainArgument, clauses, ")"],
    .suspect badComprehension]
  | .dictComp => [
    plainly ["\x7b", keyValue, clauses, "\x7d"],
    .suspect badDictComp]
  | .arguments => [
    .reads (.part 0) [args, .opt ",", .ahead ")"],
    .suspect badArguments]
  | .args => [
    .reads .arguments [
      .listOf "," (.oneOf [[starredArg], [plainArgument, .notAhead "="]]),
      .opt (inRow [",", keywordArgs])],
    .reads .arguments [keywordArgs]]
  | .keywordArgs => [
    .reads .parts [.listOf "," keywordOrStarred, ",", .listOf "," keywordOrUnpacked],
    .reads .parts [.listOf "," keywordOrStarred],
    .reads .parts [.listOf "," keywordOrUnpacked]]
  | .starredArg => [.reads .starred ["*", expression]]
  | .keywordOrStarred => [
    .suspect badKeyword,
    .reads .token [.name, "=", expression],
    plainly [starredArg]]
  | .keywordOrUnpacked => [
    .suspect badKeyword,
    .reads .token [.name, "=", expression],
    .reads .token ["**", expression]]
  | .starTargets => [
    plainly [starTarget, .notAhead ","],
    plainly [starTarget, .many (inRow [",", starTarget]), .opt ","]]
  | .starTarget => [
    plainly ["*", inRow [.notAhead "*", starTarget]],
    plainly [starAtomTarget]]
  | .starAtomTarget => [
    plainly [targetPrimary, ".", .name, .notAhead targetEnd],
    plainly [targetPrimary, "[", slices, "]", .notAhead targetEnd],
    plainly [starAtom]]
  | .starAtom => [
    plainly [.name],
    plainly ["(", starAtomTarget, ")"],
    plainly ["(", .opt (.oneOf [
      [starTarget, .some (inRow [",", starTarget]), .opt ","], [starTarget, ","]]), ")"],
    plainly ["[", .opt (inRow [.listOf "," starTarget, .opt ","]), "]"]]
  | .singleTarget => [
    plainly [placeTarget],
    plainly [.name],
    plainly ["(", singleTarget, ")"]]
  | .placeTarget => [
    plainly [targetPrimary, ".", .name, .notAhead targetEnd],
    plainly [targetPrimary, "[", slices, "]", .notAhead targetEnd]]
  | .targetPrimary => [
    plainly [atom, .ahead targetEnd, .many (.oneOf [
      [".", .name, .ahead targetEnd],
      ["[", slices, "]", .ahead targetEnd],
      [generator, .ahead targetEnd],
      ["(", .opt arguments, ")", .ahead targetEnd]])]]
  | .targetEnd => [plainly [anyOf ["(", "[", "."]]]
  | .delTargets => [plainly [.listOf "," delTarget, .opt ","]]
  | .delTarget => [
    plainly [targetPrimary, ".", .name, .notAhead targetEnd],
    plainly [targetPrimary, "[", slices, "]", .notAhead targetEnd],
    plainly [delAtom]]
  | .delAtom => [
    plainly [.name],
    plainly ["(", delTarget, ")"],
    plainly ["(", .opt delTargets, ")"],
    plainly ["[", .opt delTargets, "]"]]
  | _ => []

end CallSites.Source.Blame
