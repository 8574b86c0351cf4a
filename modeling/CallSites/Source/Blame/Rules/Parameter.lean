import CallSites.Source.Blame.Phrase

/-! # Rules for parameter lists

Functions and lambdas have the same parameter lists, but for hints, which only the parameters of
functions have, and for the symbol that closes the list.
-/

namespace CallSites.Source.Blame

open Rule

/-- The symbol that closes a parameter list. -/
def paramCloser (ofLambda : Bool) : String := if ofLambda then ":" else ")"

/-- A parameter list in parentheses of its own. -/
def enclosedParams (ofLambda : Bool) : Phrase :=
  if ofLambda then .listOf "," (param true .single) else .some (param false .plain)

/-- The word to blame for a bare star without a parameter after it. -/
def bareStar (ofLambda : Bool) : Culprit := if ofLambda then .last else .part 0

/-- The rules for parameter lists, without and with mistakes. -/
def paramRules (ofLambda : Bool) : ParamRule → List Alternative
  | .checked => [
    .suspect (param ofLambda .mistake),
    plainly [param ofLambda .all]]
  | .all => [
    plainly [param ofLambda .slash, .many (param ofLambda .plain),
      .many (param ofLambda .withDefault), .opt (param ofLambda .starred)],
    plainly [param ofLambda .slashWithDefault, .many (param ofLambda .withDefault),
      .opt (param ofLambda .starred)],
    plainly [.some (param ofLambda .plain), .many (param ofLambda .withDefault),
      .opt (param ofLambda .starred)],
    plainly [.some (param ofLambda .withDefault), .opt (param ofLambda .starred)],
    plainly [param ofLambda .starred]]
  | .slash => [
    plainly [.some (param ofLambda .plain), "/", ","],
    plainly [.some (param ofLambda .plain), "/", .ahead (paramCloser ofLambda)]]
  | .slashWithDefault => [
    plainly [.many (param ofLambda .plain), .some (param ofLambda .withDefault), "/", ","],
    plainly [.many (param ofLambda .plain), .some (param ofLambda .withDefault), "/",
      .ahead (paramCloser ofLambda)]]
  | .starred => [
    .suspect (param ofLambda .mistakeInStarred),
    plainly ["*", param ofLambda .plain, .many (param ofLambda .maybeWithDefault),
      .opt (param ofLambda .others)],
    plainly ["*", param ofLambda .plainWithStarredHint, .many (param ofLambda .maybeWithDefault),
      .opt (param ofLambda .others)],
    plainly ["*", ",", .some (param ofLambda .maybeWithDefault), .opt (param ofLambda .others)],
    plainly [param ofLambda .others]]
  | .others => [
    .suspect (param ofLambda .mistakeInOthers),
    plainly ["**", param ofLambda .plain]]
  | .plain => [
    plainly [param ofLambda .single, ","],
    plainly [param ofLambda .single, .ahead (paramCloser ofLambda)]]
  | .plainWithStarredHint =>
    if ofLambda then []
    else [
      plainly [param false .singleWithStarredHint, ","],
      plainly [param false .singleWithStarredHint, .ahead ")"]]
  | .withDefault => [
    plainly [param ofLambda .single, defaultValue, ","],
    plainly [param ofLambda .single, defaultValue, .ahead (paramCloser ofLambda)]]
  | .maybeWithDefault => [
    plainly [param ofLambda .single, .opt defaultValue, ","],
    plainly [param ofLambda .single, .opt defaultValue, .ahead (paramCloser ofLambda)]]
  | .single => [plainly (if ofLambda then [.name] else [.name, .opt hint])]
  | .singleWithStarredHint => [plainly [.name, starredHint]]
  | .mistake => [
    .wrong (.part 2) [.many (param ofLambda .plain), param ofLambda .beforePlain,
      param ofLambda .plain],
    .wrong (.part 1) [.many (param ofLambda .plain), "(", enclosedParams ofLambda, .opt ",", ")"],
    .wrong (.part 0) ["/", ","],
    .wrong (.part 2) [anyOf [param ofLambda .slash, param ofLambda .slashWithDefault],
      .many (param ofLambda .maybeWithDefault), "/"],
    .wrong (.part 5) [.opt (anyOf [param ofLambda .slash, param ofLambda .slashWithDefault]),
      .many (param ofLambda .maybeWithDefault), "*", anyOf [",", param ofLambda .plain],
      .many (param ofLambda .maybeWithDefault), "/"],
    .wrong (.part 2) [.some (param ofLambda .maybeWithDefault), "/", "*"]]
  | .beforePlain => [
    plainly [param ofLambda .slashWithDefault],
    plainly [.some (param ofLambda .withDefault)]]
  | .mistakeInStarred => [
    .wrong (bareStar ofLambda) ["*", .oneOf [[paramCloser ofLambda],
      [",", anyOf [paramCloser ofLambda, "**"]]]],
    .wrong (.part 2) ["*", param ofLambda .single, "="],
    .wrong (.part 3) ["*", anyOf [param ofLambda .plain, ","],
      .many (param ofLambda .maybeWithDefault), "*", anyOf [param ofLambda .plain, ","]]]
  | .mistakeInOthers => [
    .wrong (.part 2) ["**", param ofLambda .single, "="],
    .wrong (.part 3) ["**", param ofLambda .single, ",", param ofLambda .single],
    .wrong (.part 3) ["**", param ofLambda .single, ",", anyOf ["*", "**", "/"]]]

end CallSites.Source.Blame
