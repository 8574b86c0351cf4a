import CallSites.Source.Blame.Phrase

/-! # Rules for statements -/

namespace CallSites.Source.Blame

open Rule

/-- The right side of an assignment. -/
def assignedValue : Phrase := anyOf [yielding, starExpressions]

/-- The parentheses after the name of a class. -/
def classArguments : Phrase := .opt (inRow ["(", .opt arguments, ")"])

/-- A name after `as`. -/
def asName : Phrase := .opt (inRow ["as", .name])

/-- What must follow a target of a context manager. -/
def withItemEnd : Phrase := .ahead (anyOf [",", ")", ":"])

/-- A function definition from `def` on. -/
def functionPhrases : List Phrase :=
  ["def", .name, .forced "(", .opt (param false .checked), ")", .opt (inRow ["->", expression]),
   .forced ":", block]

/-- A loop from `for` on. -/
def loopPhrases : List Phrase :=
  ["for", starTargets, "in", .cut, starExpressions, ":", block, .opt elseBranch]

/-- Context managers in parentheses, with their block. -/
def groupedWithPhrases : List Phrase :=
  ["with", "(", .listOf "," withItem, .opt ",", ")", ":", block]

/-- Context managers with their block. -/
def withPhrases : List Phrase := ["with", .listOf "," withItem, ":", block]

/-- The rules for statements. -/
def statementRules : Rule → List Alternative
  | .file => [plainly [.opt statements, .finish]]
  | .statements => [plainly [.some statement]]
  | .statement => [
    plainly [compoundStatement],
    plainly [simpleLine]]
  | .simpleLine => [
    plainly [simpleStatement, .notAhead ";", .newline],
    plainly [.listOf ";" simpleStatement, .opt ";", .newline]]
  | .simpleStatement => [
    plainly [assignment],
    plainly [starExpressions],
    plainly [.ahead "return", returning],
    plainly [.ahead (anyOf ["import", "from"]), importing],
    plainly [.ahead "raise", raising],
    plainly ["pass"],
    plainly [.ahead "del", deletion],
    plainly [.ahead "yield", yielding],
    plainly [.ahead "assert", assertion],
    plainly ["break"],
    plainly ["continue"],
    plainly [.ahead "global", globalNames],
    plainly [.ahead "nonlocal", nonlocalNames]]
  | .compoundStatement => [
    plainly [.ahead (anyOf ["def", "@", "async"]), functionDefinition],
    plainly [.ahead "if", ifStatement],
    plainly [.ahead (anyOf ["class", "@"]), classDefinition],
    plainly [.ahead (anyOf ["with", "async"]), withStatement],
    plainly [.ahead (anyOf ["for", "async"]), forStatement],
    plainly [.ahead "try", tryStatement],
    plainly [.ahead "while", whileStatement],
    plainly [matchStatement]]
  | .assignment => [
    plainly [.name, ":", expression, .opt (inRow ["=", assignedValue])],
    plainly [.oneOf [["(", singleTarget, ")"], [placeTarget]], ":", expression,
      .opt (inRow ["=", assignedValue])],
    plainly [.some (inRow [starTargets, "="]), assignedValue, .notAhead "="],
    plainly [singleTarget, update, .cut, assignedValue],
    .suspect badAssignment]
  | .update => [
    plainly [anyOf ["+=", "-=", "*=", "@=", "/=", "%=", "&=", "|=", "^=", "<<=", ">>=", "**=",
      "//="]]]
  | .returning => [plainly ["return", .opt starExpressions]]
  | .raising => [
    plainly ["raise", expression, .opt (inRow ["from", expression])],
    plainly ["raise"]]
  | .globalNames => [plainly ["global", .listOf "," .name]]
  | .nonlocalNames => [plainly ["nonlocal", .listOf "," .name]]
  | .deletion => [
    plainly ["del", delTargets, .ahead (anyOf [";", .newline])],
    .suspect badDeletion]
  | .assertion => [plainly ["assert", expression, .opt (inRow [",", expression])]]
  | .importing => [
    plainly [importName],
    plainly [importFrom]]
  | .importName => [plainly ["import", .listOf "," dottedAlias]]
  | .importFrom => [
    plainly ["from", .many (anyOf [".", "..."]), dottedName, "import", importedNames],
    plainly ["from", .some (anyOf [".", "..."]), "import", importedNames]]
  | .importedNames => [
    plainly ["(", importedList, .opt ",", ")"],
    plainly [importedList, .notAhead ","],
    plainly ["*"],
    .suspect badImportedNames]
  | .importedList => [plainly [.listOf "," importedName]]
  | .importedName => [plainly [.name, asName]]
  | .dottedAlias => [plainly [dottedName, asName]]
  | .dottedName => [plainly [.name, .many (inRow [".", .name])]]
  | .block => [
    plainly [.newline, .indent, statements, .dedent],
    plainly [simpleLine],
    .suspect badBlock]
  | .decorators => [plainly [.some (inRow ["@", named, .newline])]]
  | .classDefinition => [
    plainly [decorators, plainClass],
    plainly [plainClass]]
  | .plainClass => [
    .suspect badClass,
    plainly ["class", .name, classArguments, ":", block]]
  | .functionDefinition => [
    plainly [decorators, plainFunction],
    plainly [plainFunction]]
  | .plainFunction => [
    .suspect badFunction,
    plainly functionPhrases,
    plainly ("async" :: functionPhrases)]
  | .hint => [plainly [":", expression]]
  | .starredHint => [plainly [":", starExpression]]
  | .defaultValue => [
    plainly ["=", expression],
    .suspect badDefault]
  | .ifStatement => [
    .suspect badIf,
    plainly ["if", named, ":", block, elifBranch],
    plainly ["if", named, ":", block, .opt elseBranch]]
  | .elifBranch => [
    .suspect badElif,
    plainly ["elif", named, ":", block, elifBranch],
    plainly ["elif", named, ":", block, .opt elseBranch]]
  | .elseBranch => [
    .suspect badElse,
    plainly ["else", .forced ":", block]]
  | .whileStatement => [
    .suspect badWhile,
    plainly ["while", named, ":", block, .opt elseBranch]]
  | .forStatement => [
    .suspect badFor,
    plainly loopPhrases,
    plainly ("async" :: loopPhrases),
    .suspect badForTarget]
  | .withStatement => [
    .suspect badWithBlock,
    plainly groupedWithPhrases,
    plainly withPhrases,
    plainly ("async" :: groupedWithPhrases),
    plainly ("async" :: withPhrases),
    .suspect badWith]
  | .withItem => [
    plainly [expression, "as", starTarget, withItemEnd],
    .suspect badWithItem,
    plainly [expression]]
  | .tryStatement => [
    .suspect badTry,
    plainly ["try", .forced ":", block, finallyBranch],
    plainly ["try", .forced ":", block, .some handler, .opt elseBranch, .opt finallyBranch],
    plainly ["try", .forced ":", block, .some groupHandler, .opt elseBranch, .opt finallyBranch]]
  | .handler => [
    .suspect badHandlerBlock,
    plainly ["except", expression, asName, ":", block],
    plainly ["except", ":", block],
    .suspect badHandler]
  | .groupHandler => [
    .suspect badGroupHandlerBlock,
    plainly ["except", "*", expression, asName, ":", block],
    .suspect badHandler]
  | .finallyBranch => [
    .suspect badFinally,
    plainly ["finally", .forced ":", block]]
  | .matchStatement => [
    plainly [.soft "match", subject, ":", .newline, .indent, .some caseBranch, .dedent],
    .suspect badMatch]
  | .subject => [
    plainly [starNamed, ",", .opt starNamedList],
    plainly [named]]
  | .caseBranch => [
    .suspect badCase,
    plainly [.soft "case", patterns, .opt caseGuard, ":", block]]
  | .caseGuard => [plainly ["if", named]]
  | _ => []

end CallSites.Source.Blame
