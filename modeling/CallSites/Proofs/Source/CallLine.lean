import CallSites.Parameter
import CallSites.Proofs.Source.Reading
import Mathlib.Data.List.Forall2

/-! # A line with a call

The words of a call of a dotted path whose arguments are all `name` or `[name]`, and the tree that
is read from them. The first name may be one with which a statement can start.
-/

namespace CallSites.Source

namespace Grammar

open CallSites.Source.Parser

/-! ## Names and declarations -/

private theorem ne_of_isFree {name keyword : String} (free : isFree name = true)
    (reserved : keyword ∈ keywords) : name ≠ keyword := by
  rintro rfl
  simp [isFree, reserved] at free

/-- An expression is a name. -/
def IsName (name : String) (e : Expr) : Prop := ∃ span free, e = .name span ⟨name, free⟩

private theorem identifier_run {name : String} (free : isFree name = true) {cursor : Cursor}
    (next : front cursor.words = .name name) :
    identifier cursor = some (⟨name, free⟩, cursor.pass) := by
  simp [identifier, next, free]

private theorem reads_atom_name (inner : Inner) {name : String} (free : isFree name = true)
    (rest : List Word) : Reads (atom inner) (.name name :: rest) rest (IsName name) := by
  intro cursor left
  have next : front cursor.words = .name name := by rw [left, front_cons]
  refine ⟨.name (.between cursor.start cursor.pass.last) ⟨name, free⟩, cursor.pass, ?_,
    by rw [Cursor.words_pass, left, List.tail_cons], _, free, rfl⟩
  have apart : ∀ keyword ∈ ["None", "True", "False"], name ≠ keyword :=
    fun keyword among => ne_of_isFree free (by revert keyword; decide)
  simp [atom, next, identifier_run free next, apart]

/-- The words of a declaration: `name` or `[name]`. -/
def declarationWords : String × ParameterKind → List Word
  | (name, .mandatory) => [.name name]
  | (name, .optional) => [.symbol "[", .name name, .symbol "]"]

/-- An expression is a declaration. -/
def IsDeclaration : String × ParameterKind → Expr → Prop
  | (name, .mandatory), e => IsName name e
  | (name, .optional), e => ∃ span item, e = .list span [item] ∧ IsName name item

private theorem plain_name {name : String} (free : isFree name = true) {rest : List Word}
    (unassigned : front rest ≠ .symbol ":=") : Plain (.name name :: rest) := by
  refine ⟨?_, unassigned⟩
  have apart : ∀ keyword ∈ ["lambda", "not", "await"], name ≠ keyword :=
    fun keyword among => ne_of_isFree free (by revert keyword; decide)
  simp [introducers, apart]

private theorem plain_declaration {declared : String × ParameterKind}
    (free : isFree declared.1 = true) {rest : List Word} (stops : front rest ∈ stoppers) :
    Plain (declarationWords declared ++ rest) := by
  match declared with
  | (name, .mandatory) => exact plain_name free (ne_of_mem_stoppers stops (by decide))
  | (name, .optional) => exact ⟨by simp [declarationWords, introducers], nofun⟩

private theorem front_declarationWords {entry : String × ParameterKind}
    (free : isFree entry.1 = true) (rest : List Word) :
    ∀ word ∈ [.symbol ")", .symbol ":=", .name "yield"],
      front (declarationWords entry ++ rest) ≠ word := by
  match entry with
  | (name, .mandatory) => simpa [declarationWords] using ne_of_isFree free (by decide)
  | (name, .optional) => simp [declarationWords]

private theorem startsClause_run {cursor : Cursor} (stops : front cursor.words ∈ stoppers) :
    startsClause cursor = some (false, cursor) := by
  simp only [stoppers, List.mem_cons, List.not_mem_nil, or_false] at stops
  rcases stops with next | next | next | next <;> simp [startsClause, next]

private theorem commaRest_run {α : Type} (item : Parser α) (more : Parser Bool) (first : α)
    {cursor : Cursor} (last : front cursor.words ≠ .symbol ",") :
    commaRest item more first cursor = some (([first], false), cursor) := by
  simp only [commaRest, bind_run]
  rw [iterate_of_stop]
  · rfl
  · simp [last]

/-- A name in brackets is a list with the name. -/
theorem reads_atom_option (levels : Nat) {name : String} (free : isFree name = true)
    (rest : List Word) :
    Reads (atom (inner (levels + 1))) (.symbol "[" :: .name name :: .symbol "]" :: rest) rest
      (IsDeclaration (name, .optional)) := by
  intro cursor left
  have opening : front cursor.words = .symbol "[" := by rw [left, front_cons]
  have inside : cursor.pass.words = .name name :: .symbol "]" :: rest := by
    rw [Cursor.words_pass, left, List.tail_cons]
  have reads := (passes_displayItem levels).trans (passes_primary _) |>.reads
    (plain_name free (by simp)) (by simp [stoppers]) (reads_atom_name _ free (.symbol "]" :: rest))
  obtain ⟨item, next, read, closing, isName⟩ := reads _ inside
  refine ⟨.list (.between cursor.start next.pass.last) [item], next.pass, ?_,
    by rw [Cursor.words_pass, closing, List.tail_cons], _, item, rfl, isName⟩
  have closes : front next.words = .symbol "]" := by rw [closing, front_cons]
  have noClause : startsClause next = some (false, next) :=
    startsClause_run (by simp [closes, stoppers])
  simp [atom, opening, bracketed, inside, read, closes, commaRest_run, noClause]

private theorem reads_atom_declaration (levels : Nat) {declared : String × ParameterKind}
    (free : isFree declared.1 = true) (rest : List Word) :
    Reads (atom (inner (levels + 1))) (declarationWords declared ++ rest) rest
      (IsDeclaration declared) := by
  match declared with
  | (name, .mandatory) => exact reads_atom_name _ free rest
  | (name, .optional) => exact reads_atom_option levels free rest

/-! ## Arguments -/

/-- The words of declarations that each follow a comma. -/
def furtherWords (declared : List (String × ParameterKind)) : List Word :=
  declared.flatMap fun entry => .symbol "," :: declarationWords entry

/-- The words of declarations separated by commas. -/
def parameterWords : List (String × ParameterKind) → List Word
  | [] => []
  | entry :: rest => declarationWords entry ++ furtherWords rest

private theorem length_parameterWords (entry : String × ParameterKind)
    (later : List (String × ParameterKind)) :
    (parameterWords later).length < (parameterWords (entry :: later)).length := by
  have some : 0 < (declarationWords entry).length := by
    match entry with
    | (_, .mandatory) | (_, .optional) => simp [declarationWords]
  have fewer : (parameterWords later).length ≤ (furtherWords later).length := by
    cases later <;> simp [parameterWords, furtherWords]
  rw [parameterWords, List.length_append]
  omega

private theorem front_furtherWords (declared : List (String × ParameterKind)) (rest : List Word) :
    front (furtherWords declared ++ .symbol ")" :: rest) ∈ stoppers := by
  cases declared <;> simp [furtherWords, stoppers]

/-- An argument that is neither starred nor a keyword argument is what `named` reads. -/
theorem argument_run (inner : Inner) {found : Arguments} (positional : found.afterKeyword = false)
    {cursor : Cursor} (unstarred : ∀ text ∈ ["*", "**"], front cursor.words ≠ .symbol text)
    (unassigned : second cursor.words ≠ .symbol "=") {arg : Expr} {next : Cursor}
    (read : named inner cursor = some (arg, next)) (ends : front next.words ≠ .symbol "=") :
    argument inner found cursor = some ({ found with args := found.args ++ [arg] }, next) := by
  simp only [argument, bind_run, here_run, peek_run, peekSecond_run, Option.bind_some]
  generalize front cursor.words = word, second cursor.words = other at unstarred unassigned
  split
  · simp at unstarred
  · simp at unstarred
  · simp at unassigned
  · simp [positional, read, ends]

private theorem reads_named (levels : Nat) {declared : String × ParameterKind}
    (free : isFree declared.1 = true) {rest : List Word} (stops : front rest ∈ stoppers) :
    Reads (named (inner (levels + 2))) (declarationWords declared ++ rest) rest
      (IsDeclaration declared) :=
  (passes_named (inner (levels + 2))).trans ((passes_expression (inner (levels + 1))).trans
    (passes_primary _)) |>.reads (plain_declaration free stops) stops
    (reads_atom_declaration levels free rest)

private theorem reads_argument (levels : Nat) {declared : String × ParameterKind}
    (free : isFree declared.1 = true) {found : Arguments} (positional : found.afterKeyword = false)
    {rest : List Word} (stops : front rest ∈ stoppers) :
    Reads (argument (inner (levels + 2)) found) (declarationWords declared ++ rest) rest
      fun found' => ∃ arg, IsDeclaration declared arg ∧
        found' = { found with args := found.args ++ [arg] } := by
  intro cursor left
  obtain ⟨arg, next, read, left', isDeclaration⟩ := reads_named levels free stops cursor left
  refine ⟨_, next, argument_run _ positional ?_ ?_ read ?_, left', arg, isDeclaration, rfl⟩
  · rw [left]
    match declared with
    | (name, .mandatory) => simp [declarationWords]
    | (name, .optional) => simp [declarationWords]
  · rw [left]
    match declared with
    | (name, .mandatory) => exact ne_of_mem_stoppers stops (by decide)
    | (name, .optional) => simp [declarationWords]
  · rw [left']
    exact ne_of_mem_stoppers stops (by decide)

/-- Passes over the comma before further declarations. -/
theorem reads_comma (declared : List (String × ParameterKind)) (rest : List Word) :
    Reads (accept ",") (furtherWords declared ++ .symbol ")" :: rest)
      (parameterWords declared ++ .symbol ")" :: rest) (· = !declared.isEmpty) := by
  intro cursor left
  cases declared with
  | nil => exact ⟨false, cursor, by simp [left, furtherWords], left, rfl⟩
  | cons entry later =>
    refine ⟨true, cursor.pass, by simp [left, furtherWords], ?_, rfl⟩
    rw [Cursor.words_pass, left]
    simp [furtherWords, parameterWords]

/-- One round of reading arguments. -/
def argumentStep (inner : Inner) (state : Arguments × Bool) : Parser (Option (Arguments × Bool)) :=
  if state.2 = false then return none
  else do
    if ← isSymbol ")" then return none
    else
      let found ← argument inner state.1
      return some (found, ← accept ",")

private theorem argumentsRest_eq (inner : Inner) (found : Arguments) (goesOn : Bool) :
    argumentsRest inner found goesOn = (do
      let state ← iterate (argumentStep inner) (found, goesOn)
      expect ")"
      return state.1) := rfl

/-- The arguments read so far are declarations. -/
structure Holds (declared : List (String × ParameterKind)) (found : Arguments) : Prop where
  args : List.Forall₂ IsDeclaration declared found.args
  unnamed : found.keywords = []
  positional : found.afterKeyword = false

theorem Holds.snoc {done : List (String × ParameterKind)} {declared : String × ParameterKind}
    {found : Arguments} {arg : Expr} (holds : Holds done found)
    (isDeclaration : IsDeclaration declared arg) :
    Holds (done ++ [declared]) { found with args := found.args ++ [arg] } :=
  ⟨List.rel_append holds.args (.cons isDeclaration .nil), holds.unnamed, holds.positional⟩

/-- Reading arguments takes one round for each declaration. -/
theorem loops_argumentStep (levels : Nat) (rest : List Word)
    {later : List (String × ParameterKind)} (free : ∀ entry ∈ later, isFree entry.1 = true)
    (done : List (String × ParameterKind)) :
    Loops (argumentStep (inner (levels + 2)))
      (fun state => (later ≠ [] → state.2 = true) ∧ Holds done state.1)
      (parameterWords later ++ .symbol ")" :: rest)
      (fun state => Holds (done ++ later) state.1) (.symbol ")" :: rest) := by
  induction later generalizing done with
  | nil =>
    refine .stop (fun state holds => by simpa using holds.2) ?_
    rintro ⟨found, goesOn⟩ - cursor left
    refine ⟨none, cursor, ?_, left, rfl⟩
    cases goesOn <;> simp [argumentStep, left, parameterWords]
  | cons entry later ih =>
    rw [List.forall_mem_cons] at free
    refine .step ?_ ?_ (List.append_cons done entry later ▸ ih free.2 (done ++ [entry]))
    · rintro ⟨found, goesOn⟩ ⟨further, holds⟩ cursor left
      obtain rfl : goesOn = true := further nofun
      rw [parameterWords, List.append_assoc] at left
      have opens : front cursor.words ≠ .symbol ")" :=
        left ▸ front_declarationWords free.1 _ _ (by simp)
      obtain ⟨_, next, read, left, arg, isDeclaration, rfl⟩ := reads_argument levels free.1
        holds.positional (front_furtherWords later rest) cursor left
      obtain ⟨_, next', read', left, rfl⟩ := reads_comma later rest next left
      refine ⟨some ({ found with args := found.args ++ [arg] }, !later.isEmpty), next', ?_, left,
        _, rfl, by simp, holds.snoc isDeclaration⟩
      rw [accept_run] at read'
      simp [argumentStep, opens, read, read']
    · rw [List.length_append, List.length_append]
      exact Nat.add_lt_add_right (length_parameterWords entry later) _

private theorem reads_argumentsRest (levels : Nat) (rest : List Word)
    {later done : List (String × ParameterKind)} (free : ∀ entry ∈ later, isFree entry.1 = true)
    {found : Arguments} (holds : Holds done found) {goesOn : Bool}
    (further : later ≠ [] → goesOn = true) :
    Reads (argumentsRest (inner (levels + 2)) found goesOn)
      (parameterWords later ++ .symbol ")" :: rest) rest (Holds (done ++ later)) := by
  rw [argumentsRest_eq]
  refine ((loops_argumentStep levels rest free done).reads ⟨further, holds⟩).bind ?_
  intro state holds cursor left
  exact ⟨state.1, cursor.pass, by simp [left], by simp [left], holds⟩

private theorem startsPlainArgument_run {entry : String × ParameterKind} {rest : List Word}
    (stops : front rest ∈ stoppers) {cursor : Cursor}
    (left : cursor.words = declarationWords entry ++ rest) :
    startsPlainArgument cursor = some (true, cursor) := by
  match entry with
  | (name, .mandatory) =>
    simp only [stoppers, List.mem_cons, List.not_mem_nil, or_false] at stops
    rcases stops with next | next | next | next <;>
      simp [startsPlainArgument, left, declarationWords, next]
  | (name, .optional) => simp [startsPlainArgument, left, declarationWords]

/-- The arguments of a call that declares parameters. -/
theorem reads_callArguments (levels : Nat) (rest : List Word)
    {declared : List (String × ParameterKind)} (free : ∀ entry ∈ declared, isFree entry.1 = true) :
    Reads (callArguments (inner (levels + 2)))
      (.symbol "(" :: parameterWords declared ++ .symbol ")" :: rest) rest (Holds declared) := by
  intro cursor left
  have inside : cursor.pass.words = parameterWords declared ++ .symbol ")" :: rest := by
    rw [Cursor.words_pass, left, List.cons_append, List.tail_cons]
  have opening : front cursor.words = .symbol "(" := by rw [left]; rfl
  cases declared with
  | nil =>
    have bare : startsPlainArgument cursor.pass = some (false, cursor.pass) := by
      simp [startsPlainArgument, inside, parameterWords]
    have none : Holds [] ({} : Arguments) := ⟨.nil, rfl, rfl⟩
    obtain ⟨found, next, read, left, holds⟩ := reads_argumentsRest levels rest
      (List.forall_mem_nil _) none (fun _ => rfl) _ inside
    exact ⟨found, next, by simp [callArguments, opening, bare, read], left, holds⟩
  | cons entry later =>
    rw [List.forall_mem_cons] at free
    have stops := front_furtherWords later rest
    rw [parameterWords, List.append_assoc] at inside
    obtain ⟨arg, between, read, left, isDeclaration⟩ := reads_named levels free.1 stops _ inside
    obtain ⟨goesOn, following, comma, left', same⟩ := reads_comma later rest between left
    have further : later ≠ [] → goesOn = true := by cases later <;> simp [same]
    have one : Holds [entry] ({ args := [arg] } : Arguments) :=
      ⟨.cons isDeclaration .nil, rfl, rfl⟩
    obtain ⟨found, next, read', left', holds⟩ := reads_argumentsRest levels rest free.2 one
      further _ left'
    refine ⟨found, next, ?_, left', holds⟩
    rw [← left] at stops
    have ends : front between.words ≠ .symbol "=" := ne_of_mem_stoppers stops (by decide)
    rw [accept_run] at comma
    simp [callArguments, opening, startsPlainArgument_run (left ▸ stops) inside, read,
      startsClause_run stops, ends, comma, read']

/-! ## Calls -/

/-- An expression is names joined by dots. Names behind dots are in normal form. -/
inductive IsPath : List String → Expr → Prop
  | name {name : String} {e : Expr} (isName : IsName name e) : IsPath [name] e
  | member {path : List String} {name : String} {span : Span} {value : Expr}
      (isPath : IsPath path value) :
      IsPath (path ++ [name]) (.member span value (Text.normalForm name))

/-- An expression is the call of a path that declares parameters. -/
def IsCall (path : List String) (declared : List (String × ParameterKind)) (e : Expr) : Prop :=
  ∃ span func args, e = .call span func args [] ∧ IsPath path func ∧
    List.Forall₂ IsDeclaration declared args

/-- The words of names that each follow a dot. -/
def memberWords (path : List String) : List Word :=
  path.flatMap fun name => [.symbol ".", .name name]

private theorem loops_primaryStep (levels : Nat) (start : Pos) {rest : List Word}
    (stops : front rest ∈ stoppers) {declared : List (String × ParameterKind)}
    (free : ∀ entry ∈ declared, isFree entry.1 = true) {later : List String}
    (names : ∀ name ∈ later, isFree name = true) (path : List String) :
    Loops (primaryStep (inner (levels + 2)) start) (IsPath path)
      (memberWords later ++ .symbol "(" :: parameterWords declared ++ .symbol ")" :: rest)
      (IsCall (path ++ later) declared) rest := by
  induction later generalizing path with
  | nil =>
    have shorter : rest.length < (memberWords [] ++ .symbol "(" :: parameterWords declared ++
        .symbol ")" :: rest).length := by
      simp only [List.length_append, List.length_cons]
      omega
    refine .step ?_ shorter (.stop (fun _ isCall => isCall) ?_)
    · intro value isPath cursor left
      obtain ⟨found, next, read, left', holds⟩ := reads_callArguments levels rest free cursor left
      refine ⟨some (.call (.between start next.last) value found.args found.keywords), next, ?_,
        left', _, rfl, _, _, _, by rw [holds.unnamed], List.append_nil path ▸ isPath, holds.args⟩
      simp [primaryStep, left, memberWords, read]
    · intro call _ cursor left
      exact ⟨none, cursor, primaryStep_run _ _ _ (left ▸ stops), left, rfl⟩
  | cons name later ih =>
    rw [List.forall_mem_cons] at names
    have shorter : (memberWords later ++ .symbol "(" :: parameterWords declared ++
        .symbol ")" :: rest).length < (memberWords (name :: later) ++
        .symbol "(" :: parameterWords declared ++ .symbol ")" :: rest).length := by
      simp only [memberWords, List.flatMap_cons, List.length_append, List.length_cons]
      omega
    refine .step ?_ shorter (List.append_cons path name later ▸ ih names.2 (path ++ [name]))
    intro value isPath cursor left
    have dot : front cursor.words = .symbol "." := by rw [left]; rfl
    have inside : cursor.pass.words = .name name :: (memberWords later ++
        .symbol "(" :: parameterWords declared ++ .symbol ")" :: rest) := by
      rw [Cursor.words_pass, left]
      simp [memberWords]
    have next : front cursor.pass.words = .name name := by rw [inside, front_cons]
    refine ⟨some (.member (.between start cursor.pass.pass.last) value (Text.normalForm name)),
      cursor.pass.pass, ?_, by rw [Cursor.words_pass, inside, List.tail_cons], _, rfl,
      .member isPath⟩
    simp [primaryStep, dot, identifierText, identifier_run names.1 next, Identifier.name]

/-- The words of a call of a path with declarations as its arguments. -/
def callWords (name : String) (path : List String) (declared : List (String × ParameterKind)) :
    List Word :=
  .name name :: (memberWords path ++ .symbol "(" :: parameterWords declared ++ [.symbol ")"])

private theorem reads_primary_call (levels : Nat) {rest : List Word} (stops : front rest ∈ stoppers)
    {declared : List (String × ParameterKind)} (free : ∀ entry ∈ declared, isFree entry.1 = true)
    {name : String} {path : List String} (names : ∀ part ∈ name :: path, isFree part = true) :
    Reads (primary (inner (levels + 2))) (callWords name path declared ++ rest) rest
      (IsCall (name :: path) declared) := by
  rw [List.forall_mem_cons] at names
  rw [primary_eq]
  intro cursor left
  have words : callWords name path declared ++ rest = .name name :: (memberWords path ++
      .symbol "(" :: parameterWords declared ++ .symbol ")" :: rest) := by
    simp [callWords]
  obtain ⟨first, between, read, left, isName⟩ :=
    reads_atom_name (inner (levels + 2)) names.1 _ cursor (left.trans words)
  have loops := loops_primaryStep levels cursor.start stops free names.2 [name]
  obtain ⟨call, next, read', left, isCall⟩ := loops.reads (.name isName) between left
  exact ⟨call, next, by simp [read, read'], left, isCall⟩

/-! ## A line with a call -/

/-- The words of a line that is a call. -/
def lineWords (name : String) (path : List String) (declared : List (String × ParameterKind)) :
    List Word := callWords name path declared ++ [.newline, .finish]

/-- The only statement is a call. -/
def IsLine (path : List String) (declared : List (String × ParameterKind)) (body : List Stmt) :
    Prop := ∃ span e, body = [.expr span e] ∧ IsCall path declared e

section Line

variable (levels : Nat) {name : String} {path : List String}
  {declared : List (String × ParameterKind)} (free : ∀ entry ∈ declared, isFree entry.1 = true)

/-! A call of something named `match` starts like a `match` statement. That fails: a dot is no
subject, and after the parameters in parentheses, which are one, no colon follows. -/

/-- One round of reading the rest of a list. -/
def commaStep {α : Type} (item : Parser α) (more : Parser Bool) (state : List α × Bool × Bool) :
    Parser (Option (List α × Bool × Bool)) :=
  if state.2.2 = true then return none
  else do
    if ← accept "," then
      if ← more then return some (state.1 ++ [← item], true, false)
      else return some (state.1, true, true)
    else return none

private theorem commaRest_eq {α : Type} (item : Parser α) (more : Parser Bool) (first : α) :
    commaRest item more first = (do
      let state ← iterate (commaStep item more) ([first], false, false)
      return (state.1, state.2.1)) := rfl

private theorem reads_displayItem {entry : String × ParameterKind} (free : isFree entry.1 = true)
    {rest : List Word} (stops : front rest ∈ stoppers) :
    Reads (displayItem (inner (levels + 2))) (declarationWords entry ++ rest) rest
      (IsDeclaration entry) :=
  (passes_displayItem (levels + 1)).trans (passes_primary _) |>.reads
    (plain_declaration free stops) stops (reads_atom_declaration levels free rest)

private theorem moreStarred_run {entry : String × ParameterKind} (free : isFree entry.1 = true)
    {rest : List Word} {cursor : Cursor} (left : cursor.words = declarationWords entry ++ rest) :
    moreStarred cursor = some (true, cursor) := by
  match entry with
  | (name, .mandatory) =>
    simp [moreStarred, left, declarationWords, startsStarred, startsExpression, free]
  | (name, .optional) =>
    simp [moreStarred, left, declarationWords, startsStarred, startsExpression, expressionSymbols]

private theorem IsDeclaration.name_or_list {entry : String × ParameterKind} {e : Expr}
    (isDeclaration : IsDeclaration entry e) :
    (∃ span id, e = .name span id) ∨ ∃ span items, e = .list span items := by
  match entry with
  | (_, .mandatory) =>
    obtain ⟨span, free, rfl⟩ := isDeclaration
    exact .inl ⟨span, _, rfl⟩
  | (_, .optional) =>
    obtain ⟨span, item, rfl, -⟩ := isDeclaration
    exact .inr ⟨span, _, rfl⟩

/-- A subject without a comma ends where its expression ends. -/
theorem matchSubject_left {inner : Inner} {cursor next : Cursor} {first : Expr}
    {subject : Expr × Cursor} (read : displayItem inner cursor = some (first, next))
    (last : front next.words ≠ .symbol ",") (found : matchSubject inner cursor = some subject) :
    subject.2 = next := by
  have noComma : (front next.words == .symbol ",") = false := beq_eq_false_iff_ne.mpr last
  simp only [matchSubject, bind_run, here_run, Option.bind_some, read, isSymbol_run, noComma,
    Bool.false_eq_true, if_false] at found
  split at found
  · cases found
  · cases found
    rfl

/-- A dot is not what a `match` statement looks at. -/
theorem fails_matchSubject (rest : List Word) :
    Fails (matchSubject (inner (levels + 1))) (.symbol "." :: .name name :: rest) := by
  intro cursor left
  have noAtom : Fails (atom (inner levels)) (.symbol "." :: .name name :: rest) :=
    fun cursor left => by simp [atom, left]
  have fails := (passes_displayItem levels).trans (passes_primary _) |>.fails
    ⟨by simp [introducers], by simp⟩ noAtom cursor left
  simp [matchSubject, fails]

include free

private theorem loops_commaStep (rest : List Word) :
    Loops (commaStep (displayItem (inner (levels + 2))) moreStarred)
      (fun state => state.2.2 = false)
      (furtherWords declared ++ .symbol ")" :: rest) (fun _ => True) (.symbol ")" :: rest) := by
  induction declared with
  | nil =>
    refine .stop (fun _ _ => trivial) ?_
    rintro ⟨items, comma, _⟩ rfl cursor left
    exact ⟨none, cursor, by simp [commaStep, left, furtherWords], left, rfl⟩
  | cons entry later ih =>
    rw [List.forall_mem_cons] at free
    have words : furtherWords (entry :: later) ++ .symbol ")" :: rest =
        .symbol "," :: (declarationWords entry ++ (furtherWords later ++ .symbol ")" :: rest)) := by
      simp [furtherWords]
    rw [words]
    refine .step ?_ (by simp only [List.length_append, List.length_cons]; omega) (ih free.2)
    rintro ⟨items, comma, _⟩ rfl cursor left
    have inside : cursor.pass.words = declarationWords entry ++
        (furtherWords later ++ .symbol ")" :: rest) := by
      rw [Cursor.words_pass, left, List.tail_cons]
    obtain ⟨item, next, read, left', -⟩ :=
      reads_displayItem levels free.1 (front_furtherWords later rest) _ inside
    refine ⟨some (items ++ [item], true, false), next, ?_, left', _, rfl, rfl⟩
    simp [commaStep, left, moreStarred_run free.1 inside, read]

private theorem reads_commaRest (rest : List Word) (first : Expr) :
    Reads (commaRest (displayItem (inner (levels + 2))) moreStarred first)
      (furtherWords declared ++ .symbol ")" :: rest) (.symbol ")" :: rest) fun _ => True := by
  rw [commaRest_eq]
  refine ((loops_commaStep levels free rest).reads rfl).bind ?_
  exact fun _ _ cursor left => ⟨_, cursor, rfl, left, trivial⟩

/-- Declarations in parentheses are an expression. -/
theorem reads_parenthesized (rest : List Word) :
    Reads (parenthesized (inner (levels + 2)))
      (.symbol "(" :: parameterWords declared ++ .symbol ")" :: rest) rest fun _ => True := by
  intro cursor left
  have opening : front cursor.words = .symbol "(" := by rw [left]; rfl
  have inside : cursor.pass.words = parameterWords declared ++ .symbol ")" :: rest := by
    rw [Cursor.words_pass, left, List.cons_append, List.tail_cons]
  cases declared with
  | nil =>
    refine ⟨.tuple (.between cursor.start cursor.pass.pass.last) [], cursor.pass.pass, ?_,
      by rw [Cursor.words_pass, inside]; rfl, trivial⟩
    simp [parenthesized, opening, inside, parameterWords]
  | cons entry later =>
    rw [List.forall_mem_cons] at free
    rw [parameterWords, List.append_assoc] at inside
    have first := front_declarationWords free.1 (furtherWords later ++ .symbol ")" :: rest)
    have stops := front_furtherWords later rest
    obtain ⟨item, between, read, left, isDeclaration⟩ :=
      reads_displayItem levels free.1 stops _ inside
    have noClause : startsClause between = some (false, between) := startsClause_run (left ▸ stops)
    obtain ⟨items, next, read', left', -⟩ := reads_commaRest levels free.2 rest item _ left
    cases later with
    | nil =>
      have closes : front between.words = .symbol ")" := by rw [left]; rfl
      refine ⟨item, between.pass, ?_, by rw [Cursor.words_pass, left]; rfl, trivial⟩
      rcases isDeclaration.name_or_list with ⟨_, _, rfl⟩ | ⟨_, _, rfl⟩ <;>
        simp [parenthesized, opening, inside, first, read, noClause, closes]
    | cons second later =>
      have goesOn : front between.words = .symbol "," := by rw [left]; rfl
      have closes : front next.words = .symbol ")" := by rw [left']; rfl
      refine ⟨.tuple (.between cursor.start next.pass.last) items.1, next.pass, ?_,
        by rw [Cursor.words_pass, left']; rfl, trivial⟩
      simp [parenthesized, opening, inside, first, read, noClause, goesOn, read', closes]

private theorem plain_parenthesized (rest : List Word) :
    Plain (.symbol "(" :: parameterWords declared ++ .symbol ")" :: rest) := by
  refine ⟨by simp [introducers], ?_⟩
  cases declared with
  | nil => simp [parameterWords]
  | cons entry later =>
    rw [parameterWords, List.cons_append, List.append_assoc]
    exact front_declarationWords (free entry (List.mem_cons_self ..)) _ _ (by simp)

private theorem fails_matchStatement (bound : Nat) (block : Parser (List Stmt)) :
    Fails (matchStatement bound (inner (levels + 3)) block) (lineWords "match" path declared) := by
  intro cursor left
  have first : front cursor.words = .name "match" := by rw [left]; rfl
  have inside : cursor.pass.words = memberWords path ++
      (.symbol "(" :: parameterWords declared ++ .symbol ")" :: [.newline, .finish]) := by
    simp [left, lineWords, callWords]
  rw [matchStatement, bind_run, here_run, Option.bind_some, bind_run, expectName_run,
    if_pos first, Option.bind_some, bind_run]
  cases path with
  | nil =>
    have reads : Reads (atom (inner (levels + 2)))
        (.symbol "(" :: parameterWords declared ++ .symbol ")" :: [.newline, .finish])
        [.newline, .finish] fun _ => True := by
      intro cursor left
      obtain ⟨e, next, read, left', -⟩ := reads_parenthesized levels free _ cursor left
      exact ⟨e, next, by simp [atom, left, read], left', trivial⟩
    obtain ⟨value, next, read, left', -⟩ := (passes_displayItem (levels + 2)).trans
      (passes_primary _) |>.reads (plain_parenthesized free _) (by simp [stoppers]) reads _ inside
    have last : front next.words ≠ .symbol "," := by simp [left']
    cases found : matchSubject (inner (levels + 3)) cursor.pass with
    | none => rfl
    | some subject =>
      obtain rfl := matchSubject_left read last found
      have noColon : front subject.2.words ≠ .symbol ":" := by simp [left']
      rw [Option.bind_some, bind_run, expect_run, if_neg noColon, Option.bind_none]
  | cons name path => rw [fails_matchSubject (levels + 2) _ _ inside, Option.bind_none]

variable (names : ∀ part ∈ name :: path, isFree part = true)

include names

private theorem reads_expressionList :
    Reads (expressionList (inner (levels + 3))) (lineWords name path declared)
      [.newline, .finish] (IsCall (name :: path) declared) := by
  intro cursor left
  have plain : Plain (lineWords name path declared) := by
    refine plain_name (names name (List.mem_cons_self ..)) ?_
    cases path <;> simp [memberWords]
  have passes : Passes (listItem (inner (levels + 3))) (primary (inner (levels + 2))) :=
    (passes_starredOr _ _).trans (passes_expression _)
  obtain ⟨call, next, read, left, isCall⟩ := passes.reads plain (by simp [stoppers])
    (reads_primary_call levels (by simp [stoppers]) free names) cursor left
  have last : front next.words ≠ .symbol "," := by simp [left]
  exact ⟨call, next, by simp [expressionList, commaList, read, commaRest_run, last], left, isCall⟩

private theorem reads_expressionStatement :
    Reads (expressionStatement (inner (levels + 3))) (lineWords name path declared)
      [.newline, .finish] fun stmt => IsLine (name :: path) declared [stmt] := by
  intro cursor left
  obtain ⟨call, next, read, left', isCall⟩ := reads_expressionList levels free names cursor left
  have first : front cursor.words ≠ .name "yield" := by
    have apart := ne_of_isFree (names name (List.mem_cons_self ..)) (by decide : "yield" ∈ keywords)
    simpa [left, lineWords, callWords] using apart
  refine ⟨.expr (.between cursor.start next.last) call, next, ?_, left', _, call, rfl, isCall⟩
  simp [expressionStatement, first, read, left', operator]

private theorem reads_simpleStatement :
    Reads (simpleStatement (inner (levels + 3))) (lineWords name path declared)
      [.newline, .finish] fun stmt => IsLine (name :: path) declared [stmt] := by
  intro cursor left
  obtain ⟨stmt, next, read, left', isLine⟩ :=
    reads_expressionStatement levels free names cursor left
  have first : front cursor.words = .name name := by rw [left]; rfl
  have apart : ∀ keyword ∈ ["return", "import", "from", "raise", "pass", "del", "assert", "break",
      "continue", "global", "nonlocal"], name ≠ keyword := fun keyword among =>
    ne_of_isFree (names name (List.mem_cons_self ..)) (by revert keyword; decide)
  refine ⟨stmt, next, ?_, left', isLine⟩
  simp [simpleStatement, first, read, apart]

private theorem reads_simpleLine :
    Reads (simpleLine (inner (levels + 3))) (lineWords name path declared) [.finish]
      (IsLine (name :: path) declared) := by
  intro cursor left
  obtain ⟨stmt, next, read, left, isLine⟩ := reads_simpleStatement levels free names cursor left
  refine ⟨[stmt], next.pass, ?_, by simp [left], isLine⟩
  simp only [simpleLine, bind_run, read, Option.bind_some]
  rw [iterate_of_stop]
  · simp [endLine, left]
  · simp [left]

private theorem reads_statement (bound : Nat) (block : Parser (List Stmt)) :
    Reads (statement bound (inner (levels + 3)) block) (lineWords name path declared) [.finish]
      (IsLine (name :: path) declared) := by
  intro cursor left
  obtain ⟨body, next, read, left', isLine⟩ := reads_simpleLine levels free names cursor left
  refine ⟨body, next, ?_, left', isLine⟩
  have first : front cursor.words = .name name := by rw [left]; rfl
  by_cases soft : name = "match"
  · subst soft
    have fails := fails_matchStatement levels free bound block cursor left
    simp [statement, first, fails, read]
  · have apart : ∀ keyword ∈ ["def", "class", "if", "for", "while", "with", "try", "async"],
        name ≠ keyword := fun keyword among =>
      ne_of_isFree (names name (List.mem_cons_self ..)) (by revert keyword; decide)
    simp [statement, first, read, apart, soft]

private theorem reads_statementsUntil (bound : Nat) (block : Parser (List Stmt)) :
    Reads (statementsUntil bound (inner (levels + 3)) block .finish) (lineWords name path declared)
      [.finish] (IsLine (name :: path) declared) := by
  refine reads_iterate_once ?_ (by simp [lineWords]) ?_
  · intro cursor left
    have first : front cursor.words ≠ .finish := by rw [left]; exact nofun
    obtain ⟨body, next, read, left', isLine⟩ :=
      reads_statement levels free names bound block cursor left
    exact ⟨some body, next, by simp [first, read], left', body, rfl, isLine⟩
  · intro body _ cursor left
    exact ⟨none, cursor, by simp [left], left, rfl⟩

/-- A line that is a call is a text with this one statement. -/
theorem reads_file :
    Reads (file (levels + 3)) (lineWords name path declared) [.finish]
      (IsLine (name :: path) declared) := by
  refine (reads_statementsUntil levels free names (levels + 3) _).bind ?_
  intro body isLine cursor left
  exact ⟨body, cursor, by simp [left], left, isLine⟩

end Line

end Grammar

end CallSites.Source
