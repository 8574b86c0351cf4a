import CallSites.Source.Blame.Phrase

/-! # Rules for patterns -/

namespace CallSites.Source.Blame

open Rule

/-- What must not follow a name that captures something, or a value. -/
def memberOrCall : Phrase := anyOf [".", "(", "="]

/-- The rules for the patterns of `match` statements. -/
def patternRules : Rule → List Alternative
  | .patterns => [
    plainly [openSequence],
    plainly [pattern]]
  | .pattern => [
    plainly [asPattern],
    plainly [orPattern]]
  | .asPattern => [
    plainly [orPattern, "as", captureTarget],
    .suspect badAsPattern]
  | .orPattern => [.reads .sole [.listOf "|" closedPattern]]
  | .closedPattern => [
    plainly [literalPattern],
    plainly [captureTarget],
    plainly [wildcard],
    plainly [valuePattern],
    plainly [groupPattern],
    plainly [sequencePattern],
    plainly [mappingPattern],
    plainly [classPattern]]
  | .literalPattern => [
    plainly [signedNumber, .notAhead (anyOf ["+", "-"])],
    plainly [complexNumber],
    plainly [.strings],
    .reads .value [anyOf ["None", "True", "False"]]]
  | .signedNumber => [
    plainly [.number],
    plainly ["-", .number]]
  | .complexNumber => [
    plainly [signedReal, "+", .imaginary],
    plainly [signedReal, "-", .imaginary]]
  | .signedReal => [
    plainly [.real],
    plainly ["-", .real]]
  | .captureTarget => [plainly [.notAhead (.soft "_"), .name, .notAhead memberOrCall]]
  | .wildcard => [.reads .value [.soft "_"]]
  | .valuePattern => [plainly [dotted, .notAhead memberOrCall]]
  | .dotted => [plainly [.name, .some (inRow [".", .name])]]
  | .nameOrDotted => [
    plainly [dotted],
    plainly [.name]]
  | .groupPattern => [.reads (.part 1) ["(", pattern, ")"]]
  | .sequencePattern => [
    plainly ["[", .opt sequenceItems, "]"],
    plainly ["(", .opt openSequence, ")"]]
  | .openSequence => [plainly [maybeStarPattern, ",", .opt sequenceItems]]
  | .sequenceItems => [plainly [.listOf "," maybeStarPattern, .opt ","]]
  | .maybeStarPattern => [
    plainly [starPattern],
    plainly [pattern]]
  | .starPattern => [
    plainly ["*", captureTarget],
    plainly ["*", wildcard]]
  | .mappingPattern => [
    plainly ["\x7b", "\x7d"],
    plainly ["\x7b", mappingRest, .opt ",", "\x7d"],
    plainly ["\x7b", .listOf "," mappingItem, ",", mappingRest, .opt ",", "\x7d"],
    plainly ["\x7b", .listOf "," mappingItem, .opt ",", "\x7d"]]
  | .mappingItem => [plainly [anyOf [literalPattern, dotted], ":", pattern]]
  | .mappingRest => [plainly ["**", captureTarget]]
  | .classPattern => [
    plainly [nameOrDotted, "(", ")"],
    plainly [nameOrDotted, "(", positionalPatterns, .opt ",", ")"],
    plainly [nameOrDotted, "(", keywordPatterns, .opt ",", ")"],
    plainly [nameOrDotted, "(", positionalPatterns, ",", keywordPatterns, .opt ",", ")"],
    .suspect badClassPattern]
  | .positionalPatterns => [.reads .parts [.listOf "," pattern]]
  | .keywordPatterns => [plainly [.listOf "," (inRow [.name, "=", pattern])]]
  | _ => []

end CallSites.Source.Blame
