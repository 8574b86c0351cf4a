import CallSites.Source.Blame.Shape

/-! # Phrases

The grammar as data. A rule has alternatives, tried in order, and an alternative is a row of
phrases. Some alternatives describe mistakes: a text that fits one is wrong, and the alternative
says which of its parts is to blame.
-/

namespace CallSites.Source.Blame

/-- What belongs to a parameter list. -/
inductive ParamRule where
  | checked | all | slash | slashWithDefault | starred | others | plain | plainWithStarredHint
  | withDefault | maybeWithDefault | single | singleWithStarredHint
  | mistake | beforePlain | mistakeInStarred | mistakeInOthers
deriving DecidableEq, Hashable, Repr

/-- Parts of the language. -/
inductive Rule where
  -- Statements.
  | file | statements | statement | simpleLine | simpleStatement | compoundStatement | assignment
  | update | returning | raising | deletion | assertion | importing | importName | importFrom
  | importedNames | importedList | importedName | dottedAlias | dottedName | globalNames
  | nonlocalNames | block | decorators | classDefinition | plainClass | functionDefinition
  | plainFunction | hint | starredHint | defaultValue | ifStatement | elifBranch | elseBranch
  | whileStatement | forStatement | withStatement | withItem | tryStatement | handler
  | groupHandler | finallyBranch | matchStatement | subject | caseBranch | caseGuard
  /-- A parameter list of a lambda or of a function. -/
  | param (ofLambda : Bool) (rule : ParamRule)
  -- Patterns.
  | patterns | pattern | asPattern | orPattern | closedPattern | literalPattern | signedNumber
  | complexNumber | signedReal | captureTarget | wildcard | valuePattern | dotted | nameOrDotted
  | groupPattern | sequencePattern | openSequence | sequenceItems | maybeStarPattern | starPattern
  | mappingPattern | mappingItem | mappingRest | classPattern | positionalPatterns
  | keywordPatterns
  -- Expressions.
  | expressions | expression | quietExpression | yielding | starExpressions | starExpression
  | starNamedList | starNamed | namedPlainly | named | disjunction | inversion | comparedWith
  | bitOr | factor | awaited | primary | trailer | slices | slice | atom | group
  | lambdaExpression | listDisplay | tupleDisplay | setDisplay | dictDisplay | dictEntries
  | dictEntry | keyValue | clauses | clause | listComp | setComp | generator | dictComp | arguments
  | args | keywordArgs | starredArg | keywordOrStarred | keywordOrUnpacked
  -- Targets.
  | starTargets | starTarget | starAtomTarget | starAtom | singleTarget | placeTarget
  | targetPrimary | targetEnd | delTargets | delTarget | delAtom
  -- Mistakes.
  | badArguments | badKeyword | badExpression | badPrint | badNamed | badAssignment | badHintTarget
  | badDeletion | badBlock | badComprehension | badDictComp | badDefault | badWithItem
  | badForTarget | badGroup | badImportedNames | badWith | badWithBlock | badTry | badHandler
  | badFinally | badHandlerBlock | badGroupHandlerBlock | badMatch | badCase | badAsPattern
  | badClassPattern | badClassArguments | badIf | badElif | badElse | badWhile | badFor
  | badFunction | badClass | badDictEntries | badDictEntry
deriving DecidableEq, Hashable, Repr

/-- What a row of words may look like. -/
inductive Phrase where
  /-- A keyword or a symbol. -/
  | word (text : String)
  /-- An identifier with the given spelling. -/
  | soft (text : String)
  | name
  /-- An identifier that one of the words with a meaning elsewhere starts with. -/
  | softName
  | number
  | real
  | imaginary
  /-- One string literal. -/
  | string
  /-- Adjacent string literals, which are joined. -/
  | strings
  | newline
  | indent
  | dedent
  | finish
  | rule (rule : Rule)
  | opt (phrase : Phrase)
  | many (phrase : Phrase)
  | some (phrase : Phrase)
  /-- Phrases with a separator between them, at least one. -/
  | listOf (separator : String) (phrase : Phrase)
  | oneOf (alternatives : List (List Phrase))
  | ahead (phrase : Phrase)
  | notAhead (phrase : Phrase)
  /-- A word without which the text is wrong. -/
  | forced (text : String)
  /-- From here on no other alternative is tried. -/
  | cut

instance : Coe String Phrase := ⟨.word⟩

instance : Coe Rule Phrase := ⟨.rule⟩

/-- How the shape of an alternative follows from the shapes of its phrases. -/
inductive Form where
  /-- The shape of the only phrase; several phrases make a value. -/
  | plain
  /-- The shape of the phrase with the given index. -/
  | part (index : Nat)
  /-- All shapes. -/
  | parts
  /-- No expression. -/
  | token
  /-- An expression of no special form. -/
  | value
  /-- The first shape if nothing follows it, else a value. -/
  | chain
  /-- The first shape if nothing follows it, else what the last of the following ones is. -/
  | trailed
  /-- The only item of a list, or a value for several items. -/
  | sole
  | place
  | starred
  | display
  | comparison
  | compared (isMembership : Bool)
  | arguments
deriving Repr

/-- Which part of a mistake is to blame. -/
inductive Culprit where
  /-- The phrase with the given index. -/
  | part (index : Nat)
  /-- The last word that was looked at. -/
  | last
  /-- What cannot be used so in the phrase with the given index, if there is anything. -/
  | unusable (use : Use) (index : Nat)
  /-- The first phrase, if it is a statement of old. -/
  | oldStatement
  /-- The second phrase, unless it is a statement of old, or no bracket is open after the third. -/
  | lacksComma
  /-- The last argument, if there are several. -/
  | lastArgument
deriving Repr

/-- One way to read a rule. -/
inductive Alternative where
  | reads (form : Form) (phrases : List Phrase)
  | wrong (culprit : Culprit) (phrases : List Phrase)
  /-- A rule that holds mistakes; it is only tried when mistakes are looked for. -/
  | suspect (rule : Rule)

/-- An alternative with the shape of its only phrase, or a value. -/
def plainly (phrases : List Phrase) : Alternative := .reads .plain phrases

/-- A choice between single phrases. -/
def anyOf (phrases : List Phrase) : Phrase := .oneOf (phrases.map fun phrase => [phrase])

/-- Several phrases as one. -/
def inRow (phrases : List Phrase) : Phrase := .oneOf [phrases]

end CallSites.Source.Blame
