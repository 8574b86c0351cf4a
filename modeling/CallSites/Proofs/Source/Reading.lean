import CallSites.Source.Grammar.Statement

/-! # Reading words

How a parser ends on given words, wherever these stand in the text: `Reads` and `Fails` say so, and
`Loops` follows a repeated step from round to round. Most levels of the expression grammar do
nothing to an expression that no operator introduces and none follows: each passes to the next one,
down to the primary and the atom.
-/

namespace CallSites.Source

/-- The first word. -/
def front (words : List Word) : Word := words.headD .finish

/-- The word after the first one. -/
def second (words : List Word) : Word := front words.tail

@[simp] theorem front_cons (word : Word) (words : List Word) : front (word :: words) = word := rfl

@[simp] theorem second_cons (word : Word) (words : List Word) :
    second (word :: words) = front words := rfl

namespace Cursor

/-- The words that are left. -/
def words (cursor : Cursor) : List Word := cursor.tokens.map Token.word

/-- Where the next word starts. -/
def start (cursor : Cursor) : Pos := (cursor.tokens.head?.map Token.start).getD ⟨0, 0⟩

/-- The cursor after the next word. -/
def pass (cursor : Cursor) : Cursor :=
  match cursor.tokens with
  | [] => cursor
  | token :: rest =>
    match token.word with
    | .newline | .indent | .dedent | .finish => ⟨rest, cursor.last⟩
    | _ => ⟨rest, token.stop⟩

@[simp] theorem words_pass (cursor : Cursor) : cursor.pass.words = cursor.words.tail := by
  unfold pass words
  split
  · rename_i none
    simp [none]
  · rename_i some
    rw [some, List.map_cons, List.tail_cons]
    split <;> rfl

end Cursor

namespace Parser

variable {α β : Type}

/-! ## Single steps -/

@[simp] theorem bind_run (p : Parser α) (f : α → Parser β) (cursor : Cursor) :
    (p >>= f) cursor = (p cursor).bind fun found => f found.1 found.2 := rfl

@[simp] theorem pure_run (a : α) (cursor : Cursor) :
    (pure a : Parser α) cursor = some (a, cursor) := rfl

@[simp] theorem map_run (f : α → β) (p : Parser α) (cursor : Cursor) :
    (f <$> p) cursor = (p cursor).map fun found => (f found.1, found.2) := by
  change (p cursor).bind _ = _
  cases p cursor <;> rfl

@[simp] theorem orElse_run (p q : Parser α) (cursor : Cursor) :
    (p <|> q) cursor = (p cursor).or (q cursor) := by
  change (p cursor <|> q cursor) = _
  cases p cursor <;> rfl

@[simp] theorem fail_run (cursor : Cursor) : (fail : Parser α) cursor = none := rfl

@[simp] theorem peek_run (cursor : Cursor) : peek cursor = some (front cursor.words, cursor) := by
  cases cursor with
  | mk tokens last => cases tokens <;> rfl

@[simp] theorem peekSecond_run (cursor : Cursor) :
    peekSecond cursor = some (second cursor.words, cursor) := by
  cases cursor with
  | mk tokens last =>
    match tokens with
    | [] => rfl
    | [_] => rfl
    | _ :: _ :: _ => rfl

@[simp] theorem here_run (cursor : Cursor) : here cursor = some (cursor.start, cursor) := rfl

@[simp] theorem spanFrom_run (start : Pos) (cursor : Cursor) :
    spanFrom start cursor = some (.between start cursor.last, cursor) := rfl

@[simp] theorem skip_run (cursor : Cursor) : skip cursor = some ((), cursor.pass) := rfl

@[simp] theorem isSymbol_run (text : String) (cursor : Cursor) :
    isSymbol text cursor = some (front cursor.words == .symbol text, cursor) := by
  simp [isSymbol]

@[simp] theorem isName_run (text : String) (cursor : Cursor) :
    isName text cursor = some (front cursor.words == .name text, cursor) := by
  simp [isName]

@[simp] theorem accept_run (text : String) (cursor : Cursor) :
    accept text cursor = if front cursor.words = .symbol text then some (true, cursor.pass)
      else some (false, cursor) := by
  by_cases next : front cursor.words = .symbol text <;> simp [accept, next]

@[simp] theorem acceptName_run (text : String) (cursor : Cursor) :
    acceptName text cursor = if front cursor.words = .name text then some (true, cursor.pass)
      else some (false, cursor) := by
  by_cases next : front cursor.words = .name text <;> simp [acceptName, next]

@[simp] theorem expect_run (text : String) (cursor : Cursor) :
    expect text cursor =
      if front cursor.words = .symbol text then some ((), cursor.pass) else none := by
  by_cases next : front cursor.words = .symbol text <;> simp [expect, next]

@[simp] theorem expectName_run (text : String) (cursor : Cursor) :
    expectName text cursor =
      if front cursor.words = .name text then some ((), cursor.pass) else none := by
  by_cases next : front cursor.words = .name text <;> simp [expectName, next]

/-- A repeated step that has nothing to add. -/
theorem iterate_of_stop {step : α → Parser (Option α)} {a : α} {cursor : Cursor}
    (stops : step a cursor = some (none, cursor)) :
    iterate step a cursor = some (a, cursor) := by
  have runs : iterate step a cursor = iterate.go step cursor.tokens.length a cursor := rfl
  rw [runs]
  cases cursor.tokens.length with
  | zero => rfl
  | succ bound => simp [iterate.go, stops]

/-! ## How parsers end -/

/-- A parser ends on some words as `result` says, with the other words left. -/
def Reads (p : Parser α) (words rest : List Word) (result : α → Prop) : Prop :=
  ∀ cursor : Cursor, cursor.words = words →
    ∃ a next, p cursor = some (a, next) ∧ next.words = rest ∧ result a

/-- A parser fails on some words. -/
def Fails (p : Parser α) (words : List Word) : Prop :=
  ∀ cursor : Cursor, cursor.words = words → p cursor = none

theorem Reads.bind {p : Parser α} {f : α → Parser β} {words middle rest : List Word}
    {between : α → Prop} {result : β → Prop} (first : Reads p words middle between)
    (later : ∀ a, between a → Reads (f a) middle rest result) :
    Reads (p >>= f) words rest result := by
  intro cursor left
  obtain ⟨a, next, read, left, holds⟩ := first cursor left
  rw [bind_run, read, Option.bind_some]
  exact later a holds next left

/-- The words that a repeated step reads, with what holds before and after it. -/
inductive Loops (step : α → Parser (Option α)) :
    (α → Prop) → List Word → (α → Prop) → List Word → Prop
  | stop {holds result : α → Prop} {words : List Word} (gives : ∀ a, holds a → result a)
      (stops : ∀ a, holds a → Reads (step a) words words (· = none)) :
      Loops step holds words result words
  | step {holds between result : α → Prop} {words middle rest : List Word}
      (steps : ∀ a, holds a →
        Reads (step a) words middle fun found => ∃ a', found = some a' ∧ between a')
      (shorter : middle.length < words.length) (later : Loops step between middle result rest) :
      Loops step holds words result rest

theorem Loops.reads {step : α → Parser (Option α)} {before after : α → Prop}
    {words rest : List Word} (loops : Loops step before words after rest) {a : α}
    (holds : before a) : Reads (iterate step a) words rest after := by
  -- There are as many rounds as tokens at most, and every round reads one.
  have bounded : ∀ bound, words.length ≤ bound →
      Reads (iterate.go step bound a) words rest after := by
    induction loops generalizing a with
    | stop gives stops =>
      intro bound _ cursor left
      cases bound with
      | zero => exact ⟨a, cursor, rfl, left, gives a holds⟩
      | succ bound =>
        obtain ⟨_, next, read, left, rfl⟩ := stops a holds cursor left
        exact ⟨a, next, by simp [iterate.go, read], left, gives a holds⟩
    | step steps shorter _ ih =>
      intro bound enough
      obtain ⟨bound, rfl⟩ : ∃ fewer, bound = fewer + 1 := ⟨bound - 1, by omega⟩
      refine (steps a holds).bind ?_
      rintro _ ⟨a', rfl, holds'⟩
      exact ih holds' bound (by omega)
  intro cursor left
  exact bounded _ (by simp [← left, Cursor.words]) cursor left

/-- A repeated step that is taken once. -/
theorem reads_iterate_once {step : α → Parser (Option α)} {a : α} {result : α → Prop}
    {words rest : List Word}
    (once : Reads (step a) words rest fun found => ∃ a', found = some a' ∧ result a')
    (shorter : rest.length < words.length)
    (stops : ∀ a', result a' → Reads (step a') rest rest (· = none)) :
    Reads (iterate step a) words rest result := by
  have loops : Loops step (· = a) words result rest :=
    .step (fun _ same => same ▸ once) shorter (.stop (fun _ holds => holds) stops)
  exact loops.reads rfl

end Parser

namespace Grammar

open CallSites.Source.Parser

/-! ## Levels that pass -/

/-- Words that end an expression in a list, in brackets or on a line. -/
def stoppers : List Word := [.symbol ",", .symbol ")", .symbol "]", .newline]

theorem ne_of_mem_stoppers {word other : Word} (stops : word ∈ stoppers)
    (goesOn : other ∉ stoppers) : word ≠ other := by
  rintro rfl
  exact goesOn stops

/-- The operator of a table that a word stands for. -/
def operator {α : Type} (ops : List (String × α)) : Word → Option α
  | .symbol text => ops.lookup text
  | _ => none

@[simp] theorem nextOp?_run {α : Type} (ops : List (String × α)) (cursor : Cursor) :
    nextOp? ops cursor = some (operator ops (front cursor.words), cursor) := by
  cases next : front cursor.words <;> simp [nextOp?, next, operator]

private theorem operator_eq_none {α : Type} {ops : List (String × α)} {word : Word}
    (other : ∀ entry ∈ ops, word ≠ .symbol entry.1) : operator ops word = none := by
  cases word with
  | symbol text =>
    refine List.lookup_eq_none_iff.mpr fun entry among => ?_
    rw [bne_iff_ne]
    rintro rfl
    exact other entry among rfl
  | _ => rfl

/-- Words that introduce an expression which is not a primary. -/
def introducers : List Word :=
  [.name "lambda", .name "not", .name "await", .symbol "+", .symbol "-", .symbol "~", .symbol "*"]

/-- No operator and no name with `:=` comes next. -/
def Plain (words : List Word) : Prop :=
  front words ∉ introducers ∧ second words ≠ .symbol ":="

/-- Where no operator comes next, `upper` does what `lower` does if that leads to a stopper. -/
def Passes (upper lower : Parser Expr) : Prop :=
  ∀ cursor : Cursor, Plain cursor.words →
    (∀ e next, lower cursor = some (e, next) → front next.words ∈ stoppers) →
    upper cursor = lower cursor

theorem Passes.trans {upper middle lower : Parser Expr} (first : Passes upper middle)
    (second : Passes middle lower) : Passes upper lower := by
  intro cursor plain stops
  have same := second cursor plain stops
  rw [first cursor plain (same ▸ stops), same]

/-- What may follow an atom: a member, a call or a subscript. -/
def primaryStep (inner : Inner) (start : Pos) (value : Expr) : Parser (Option Expr) := do
  if ← accept "." then
    let attr ← identifierText
    return some (.member (← spanFrom start) value attr)
  else if ← isSymbol "(" then
    let found ← callArguments inner
    return some (.call (← spanFrom start) value found.args found.keywords)
  else if ← accept "[" then
    let index ← indexes inner
    expect "]"
    return some (.subscript (← spanFrom start) value index)
  else return none

theorem primary_eq (inner : Inner) :
    primary inner = (do
      let start ← here
      let first ← atom inner
      iterate (primaryStep inner start) first) := rfl

theorem primaryStep_run (inner : Inner) (start : Pos) (value : Expr) {cursor : Cursor}
    (stops : front cursor.words ∈ stoppers) :
    primaryStep inner start value cursor = some (none, cursor) := by
  simp only [stoppers, List.mem_cons, List.not_mem_nil, or_false] at stops
  rcases stops with next | next | next | next <;> simp [primaryStep, next]

section Levels

variable (inner : Inner)

private theorem passes_awaited : Passes (awaited inner) (primary inner) := by
  intro cursor plain _
  have next : front cursor.words ≠ .name "await" := fun next => plain.1 (next ▸ by decide)
  simp [awaited, next]

private theorem passes_power : Passes (power inner) (awaited inner) := by
  intro cursor _ stops
  cases read : awaited inner cursor with
  | none => simp [power, read]
  | some found =>
    have next : front found.2.words ≠ .symbol "**" :=
      ne_of_mem_stoppers (stops found.1 found.2 read) (by decide)
    simp [power, read, next]

private theorem passes_factor : Passes (factor inner) (power inner) := by
  intro cursor plain _
  have signs : ∀ entry ∈ [("+", UnaryOp.plus), ("-", .minus), ("~", .invert)],
      Word.symbol entry.1 ∈ introducers := by decide
  have next := operator_eq_none fun entry among (next : front cursor.words = _) =>
    plain.1 (next ▸ signs entry among)
  simp [factor, next]

private theorem passes_binaryRows {rows : List (List (String × BinaryOp))}
    (others : ∀ ops ∈ rows, ∀ entry ∈ ops, .symbol entry.1 ∉ stoppers) :
    Passes (binaryRows inner rows) (factor inner) := by
  induction rows with
  | nil => exact fun _ _ _ => by rw [binaryRows]
  | cons ops tighter ih =>
    rw [List.forall_mem_cons] at others
    refine Passes.trans ?_ (ih others.2)
    intro cursor _ stops
    cases read : binaryRows inner tighter cursor with
    | none => simp [binaryRows, read]
    | some found =>
      have next : operator ops (front found.2.words) = none :=
        operator_eq_none fun entry among =>
          ne_of_mem_stoppers (stops found.1 found.2 read) (others.1 entry among)
      simp only [binaryRows, bind_run, here_run, read, Option.bind_some]
      exact iterate_of_stop (by simp [next])

private theorem passes_comparison : Passes (comparison inner) (bitOr inner) := by
  intro cursor _ stops
  cases read : bitOr inner cursor with
  | none => simp [comparison, read]
  | some found =>
    have among := stops found.1 found.2 read
    have next : nextComparison? found.2 = some (none, found.2) := by
      simp only [stoppers, List.mem_cons, List.not_mem_nil, or_false] at among
      rcases among with next | next | next | next <;> simp [nextComparison?, next]
    simp only [comparison, bind_run, here_run, read, Option.bind_some]
    rw [iterate_of_stop]
    · rfl
    · simp [next]

private theorem passes_inversion : Passes (inversion inner) (comparison inner) := by
  intro cursor plain _
  have next : front cursor.words ≠ .name "not" := fun next => plain.1 (next ▸ by decide)
  simp [inversion, next]

private theorem passes_joined (word : String) (op : BoolOp) (operand : Parser Expr) :
    Passes (joined word op operand) operand := by
  intro cursor _ stops
  cases read : operand cursor with
  | none => simp [joined, read]
  | some found =>
    have next : front found.2.words ≠ .name word :=
      ne_of_mem_stoppers (stops found.1 found.2 read) (by simp [stoppers])
    simp only [joined, bind_run, here_run, read, Option.bind_some]
    rw [iterate_of_stop]
    · rfl
    · simp [next]

private theorem passes_expression_disjunction : Passes (expression inner) (disjunction inner) := by
  intro cursor plain stops
  have first : front cursor.words ≠ .name "lambda" := fun next => plain.1 (next ▸ by decide)
  cases read : disjunction inner cursor with
  | none => simp [expression, read, first]
  | some found =>
    have next : front found.2.words ≠ .name "if" :=
      ne_of_mem_stoppers (stops found.1 found.2 read) (by decide)
    simp [expression, read, first, next]

/-- An expression without operators is a primary. -/
theorem passes_expression : Passes (expression inner) (primary inner) :=
  (passes_expression_disjunction inner).trans <| (passes_joined _ _ _).trans <|
    (passes_joined _ _ _).trans <| (passes_inversion inner).trans <|
    (passes_comparison inner).trans <| (passes_binaryRows inner (by decide)).trans <|
    (passes_factor inner).trans <| (passes_power inner).trans (passes_awaited inner)

theorem passes_named : Passes (named inner) inner.expression := by
  intro cursor plain stops
  have unnamed : startsNamed cursor = some (false, cursor) := by
    have unassigned := plain.2
    simp only [startsNamed, bind_run, peek_run, peekSecond_run, Option.bind_some]
    generalize front cursor.words = word, second cursor.words = other at unassigned
    split
    · exact absurd rfl unassigned
    · rfl
  cases read : inner.expression cursor with
  | none => simp [named, read, unnamed]
  | some found =>
    have next : front found.2.words ≠ .symbol ":=" :=
      ne_of_mem_stoppers (stops found.1 found.2 read) (by decide)
    simp [named, read, unnamed, next]

theorem passes_starredOr (operand other : Parser Expr) :
    Passes (starredOr operand other) other := by
  intro cursor plain _
  have next : front cursor.words ≠ .symbol "*" := fun next => plain.1 (next ▸ by decide)
  simp [starredOr, next]

theorem passes_primary : Passes (primary inner) (atom inner) := by
  intro cursor _ stops
  rw [primary_eq]
  cases read : atom inner cursor with
  | none => simp [read]
  | some found =>
    have among := stops found.1 found.2 read
    simp [read, iterate_of_stop (primaryStep_run inner cursor.start found.1 among)]

end Levels

/-- An item of a display without operators is a primary one level further in. -/
theorem passes_displayItem (levels : Nat) :
    Passes (displayItem (inner (levels + 1))) (primary (inner levels)) :=
  (passes_starredOr _ _).trans <| (passes_named _).trans (passes_expression (inner levels))

theorem Passes.reads {upper lower : Parser Expr} {words rest : List Word} {result : Expr → Prop}
    (passes : Passes upper lower) (plain : Plain words) (stops : front rest ∈ stoppers)
    (reads : Reads lower words rest result) : Reads upper words rest result := by
  rintro cursor rfl
  obtain ⟨e, next, read, left, holds⟩ := reads cursor rfl
  refine ⟨e, next, ?_, left, holds⟩
  rw [passes cursor plain, read]
  intro e' next' read'
  rw [read, Option.some.injEq, Prod.mk.injEq] at read'
  rwa [← read'.2, left]

theorem Passes.fails {upper lower : Parser Expr} {words : List Word} (passes : Passes upper lower)
    (plain : Plain words) (fails : Fails lower words) : Fails upper words := by
  rintro cursor rfl
  have failed := fails cursor rfl
  rw [passes cursor plain (by simp [failed]), failed]

end Grammar

end CallSites.Source
