import CallSites.Source.Lexer
import Mathlib.Data.List.Basic
import Mathlib.Data.List.TakeWhile

/-! # The words of a line

What splitting a text makes of names, single symbols and blanks on one line. `Lexes` says which
words some characters are read as, step by step, and which brackets are open before and after them;
a run of `Lexer.run` follows these steps whatever its positions are. A text that is one such line
has the words of the line, the end of the line and the end of the text.
-/

namespace CallSites.Source

/-- A name of ASCII letters, digits and underscores that may be used as an identifier. -/
def isPlainName (name : String) : Bool :=
  name.toList.all (fun c => decide (c.toNat < 128)) && Text.isIdentifier name.toList && isFree name

theorem isFree_of_isPlainName {name : String} (plain : isPlainName name = true) :
    isFree name = true := by
  rw [isPlainName, Bool.and_eq_true] at plain
  exact plain.2

namespace Lexer

/-- A plain name starts like a name and goes on like one. -/
theorem toList_of_isPlainName {name : String} (plain : isPlainName name = true) :
    ∃ first rest, name.toList = first :: rest ∧ isNameStart first = true ∧
      (∀ c ∈ first :: rest, isNameChar c = true) ∧ ∀ c ∈ first :: rest, c.toNat < 128 := by
  rw [isPlainName, Bool.and_eq_true, Bool.and_eq_true, List.all_eq_true] at plain
  obtain ⟨⟨ascii, identifier⟩, -⟩ := plain
  cases chars : name.toList with
  | nil => simp [chars, Text.isIdentifier] at identifier
  | cons first rest =>
    rw [chars] at ascii identifier
    simp only [decide_eq_true_eq] at ascii
    rw [Text.isIdentifier, Bool.and_eq_true, List.all_eq_true] at identifier
    obtain ⟨starts, goesOn⟩ := identifier
    have narrow (c : Char) (member : c ∈ first :: rest) : decide (128 ≤ c.toNat) = false := by
      have := ascii c member
      rw [decide_eq_false_iff_not]
      omega
    have start : (first.isAlpha || first == '_') = true := by
      simpa [Text.isIdentifierStart, narrow first (List.mem_cons_self ..)] using starts
    refine ⟨first, rest, rfl, by simp [isNameStart, Bool.or_eq_true] at start ⊢; tauto, ?_, ascii⟩
    intro c member
    rcases List.mem_cons.mp member with rfl | later
    · simp only [isNameChar, Char.isAlphanum, Bool.or_eq_true] at start ⊢
      tauto
    · have rest := goesOn c later
      simpa [Text.isIdentifierRest, isNameChar, narrow c member] using rest

/-- Whether a character neither goes on with a name nor opens a string. -/
def endsName (c : Char) : Bool := !isNameChar c && !isQuote c

private theorem word?_name {name : String} (plain : isPlainName name = true) {chars : List Char}
    (ends : chars.head?.any endsName = true) :
    ∃ first rest, name.toList = first :: rest ∧
      word? first (rest ++ chars) = some (.name name, chars) := by
  obtain ⟨first, rest, spelled, starts, inside, -⟩ := toList_of_isPlainName plain
  obtain ⟨next, after, rfl⟩ : ∃ next after, chars = next :: after := by
    cases chars with
    | nil => cases ends
    | cons next after => exact ⟨next, after, rfl⟩
  rw [List.head?_cons, Option.any_some, endsName, Bool.and_eq_true, Bool.not_eq_eq_eq_not,
    Bool.not_eq_eq_eq_not] at ends
  have whole : first :: (rest ++ next :: after) = name.toList ++ next :: after := by
    rw [spelled, List.cons_append]
  have letters : (name.toList ++ next :: after).takeWhile isNameChar = name.toList := by
    rw [spelled, List.takeWhile_append_of_pos inside,
      List.takeWhile_cons_of_neg (by simp [ends.1]), List.append_nil]
  have remaining : (name.toList ++ next :: after).dropWhile isNameChar = next :: after := by
    rw [spelled, List.dropWhile_append_of_pos inside,
      List.dropWhile_cons_of_neg (by simp [ends.1])]
  have identifier : Text.isIdentifier name.toList = true := by
    rw [isPlainName, Bool.and_eq_true, Bool.and_eq_true] at plain
    exact plain.1.2
  refine ⟨first, rest, spelled, ?_⟩
  rw [word?, starts, Bool.true_or, if_pos rfl, nameOrString, whole, letters, remaining]
  simp only [List.head?_cons, Option.filter_some, ends.2, identifier, String.ofList_toList]
  rfl

/-- A character with which no longer symbol goes on is a symbol by itself. -/
theorem symbol_eq {c : Char} {rest : List Char}
    (alone : ∀ text ∈ longSymbols, ¬ text <+: c :: rest) : symbol c rest = ([c], rest) := by
  have unread : longSymbols.find? (fun text => text.isPrefixOf (c :: rest)) = none := by
    rw [List.find?_eq_none]
    intro text member isPrefix
    exact alone text member (List.isPrefixOf_iff_prefix.mp isPrefix)
  rw [symbol, unread]

/-- Characters that are symbols by themselves, whatever follows them. -/
def loneSymbols : List Char := ['(', ')', '[', ']', ',']

theorem symbol_lone {c : Char} (lone : c ∈ loneSymbols) (rest : List Char) :
    symbol c rest = ([c], rest) := by
  have others : ∀ c ∈ loneSymbols, ∀ text ∈ longSymbols, text.head? ≠ some c ∧ text ≠ [] := by
    simp [loneSymbols, longSymbols]
  refine symbol_eq fun text member isPrefix => ?_
  obtain ⟨more, same⟩ := isPrefix
  cases text with
  | nil => exact (others c lone [] member).2 rfl
  | cons first text =>
    obtain ⟨rfl, -⟩ := List.cons.inj same
    exact (others first lone _ member).1 rfl

theorem symbol_dot {next : Char} (other : next ≠ '.') (after : List Char) :
    symbol '.' (next :: after) = (['.'], next :: after) := by
  have dots : ∀ text ∈ longSymbols, text.head? = some '.' → text[1]? = some '.' := by decide
  refine symbol_eq fun text member isPrefix => ?_
  obtain ⟨more, same⟩ := isPrefix
  match text, same with
  | [], same => exact absurd member (by decide)
  | [first], same =>
    obtain ⟨rfl, -⟩ := List.cons.inj same
    simpa using dots _ member rfl
  | first :: second :: text, same =>
    simp only [List.cons_append, List.cons.injEq] at same
    obtain ⟨rfl, rfl, -⟩ := same
    exact other (by simpa using dots _ member rfl)

/-- A character that starts no other word, with its symbol. -/
theorem word?_symbol {c : Char} {rest : List Char} (read : symbol c rest = ([c], rest))
    (other : isNameStart c = false ∧ isQuote c = false ∧ c.isDigit = false)
    (noFraction : (c == '.' && rest.head?.any Char.isDigit) = false)
    (shown : Text.isPrintable c = true) :
    word? c rest = some (.symbol (String.ofList [c]), rest) := by
  rw [word?, other.1, other.2.1, other.2.2, noFraction, shown, read]
  rfl

/-- The brackets that are open after a symbol, whatever rows they stand in. -/
def openAfter? (opened : List Char) (c : Char) : Option (List Char) :=
  (bracketsAfter? (opened.map (·, 0)) 0 c).map (List.map Prod.fst)

private theorem bracketsAfter?_of_openAfter? {brackets : List (Char × Nat)} {opened : List Char}
    {c : Char} (after : openAfter? (brackets.map Prod.fst) c = some opened) (row : Nat) :
    ∃ brackets', bracketsAfter? brackets row c = some brackets' ∧
      brackets'.map Prod.fst = opened := by
  unfold openAfter? bracketsAfter? at after
  unfold bracketsAfter?
  split at after
  · rename_i opening
    rw [if_pos opening]
    split at after
    · cases after
    · rename_i room
      rw [List.length_map, List.length_map] at room
      rw [if_neg room]
      exact ⟨_, rfl, by simpa [Function.comp_def] using after⟩
  · rename_i other
    rw [if_neg other]
    cases closing : opening? c with
    | none =>
      rw [closing] at after
      exact ⟨brackets, rfl, by simpa [Function.comp_def] using after⟩
    | some start =>
      rw [closing] at after
      cases brackets with
      | nil => simp at after
      | cons innermost others =>
        simp only [List.map_cons] at after ⊢
        split at after
        · rename_i belongs
          rw [if_pos belongs]
          exact ⟨others, rfl, by simpa [Function.comp_def] using after⟩
        · cases after

/-- Characters that belong to no word where a word may start. -/
def unworded : List Char := [' ', '\t', '\x0c', '#', '\n', '\\']

private theorem not_mem_unworded {c : Char} (starts : isNameStart c = true) : c ∉ unworded := by
  have others : ∀ c ∈ unworded, isNameStart c = false := by simp [unworded, isNameStart]
  intro member
  rw [others c member] at starts
  cases starts

/-- The character of a word that may be a bracket. -/
def bracketIn (c : Char) : Word → Char
  | .symbol _ => c
  | _ => ' '

/-- A word at the front of a line gives a token, and the rest is split with what is open after
it. -/
theorem run_word {context : Context} {c : Char} {rest rest' : List Char} {word : Word}
    {brackets : List (Char × Nat)} {pos : Pos} (calls : Nat) (inWord : c ∉ unworded)
    (read : word? c rest = some (word, rest'))
    (nested : bracketsAfter? context.brackets pos.row (bracketIn c word) = some brackets) :
    ∃ stop, run (calls + 1) false context pos (c :: rest) =
      .of word pos stop :: run calls false { context with brackets } stop rest' := by
  simp only [unworded, List.mem_cons, List.not_mem_nil, or_false, not_or] at inWord
  obtain ⟨noBlank, noTab, noFeed, noComment, noEnd, noJoin⟩ := inWord
  refine ⟨pos.afterAll ((c :: rest).take (rest.length + 1 - rest'.length)), ?_⟩
  rw [run.eq_def]
  simp only [noBlank, noTab, noFeed, noComment, noEnd, noJoin, or_self, if_false, read]
  cases word <;> simp only [bracketIn] at nested <;> simp [nested]

/-- Some characters of a line, with the brackets that are open before them, are read as words, with
the brackets that are open after them; what follows is left. -/
inductive Lexes : List Char → List Char → List Word → List Char → List Char → Prop
  | done {opened rest : List Char} : Lexes opened rest [] opened rest
  | blank {opened chars opened' rest : List Char} {words : List Word}
      (later : Lexes opened chars words opened' rest) :
      Lexes opened (' ' :: chars) words opened' rest
  | name {opened chars opened' rest : List Char} {name : String} {words : List Word}
      (plain : isPlainName name = true) (ends : chars.head?.any endsName = true)
      (later : Lexes opened chars words opened' rest) :
      Lexes opened (name.toList ++ chars) (.name name :: words) opened' rest
  | symbol {opened chars between opened' rest : List Char} {c : Char} {text : String}
      {words : List Word} (inWord : c ∉ unworded)
      (read : word? c chars = some (.symbol text, chars))
      (nested : openAfter? opened c = some between)
      (later : Lexes between chars words opened' rest) :
      Lexes opened (c :: chars) (.symbol text :: words) opened' rest

theorem Lexes.trans {opened chars between middle opened' rest : List Char}
    {words words' : List Word} (first : Lexes opened chars words between middle)
    (second : Lexes between middle words' opened' rest) :
    Lexes opened chars (words ++ words') opened' rest := by
  induction first with
  | done => exact second
  | blank _ ih => exact .blank (ih second)
  | name plain ends _ ih => exact .name plain ends (ih second)
  | symbol inWord read nested _ ih => exact .symbol inWord read nested (ih second)

/-- No string is read. -/
theorem Lexes.ne_string {opened chars opened' rest : List Char} {words : List Word}
    (lexes : Lexes opened chars words opened' rest) (part : StringPart) :
    ∀ word ∈ words, word ≠ .string part := by
  induction lexes with
  | done => exact nofun
  | blank _ ih => exact ih
  | name _ _ _ ih => exact List.forall_mem_cons.mpr ⟨nofun, ih⟩
  | symbol _ _ _ _ ih => exact List.forall_mem_cons.mpr ⟨nofun, ih⟩

/-- Splitting a line reads these words, as long as it may go on for as many calls as there are
characters. -/
theorem Lexes.run {opened chars opened' rest : List Char} {words : List Word}
    (lexes : Lexes opened chars words opened' rest) {calls : Nat} (context : Context) (pos : Pos)
    (enough : chars.length < calls) (open_ : context.brackets.map Prod.fst = opened) :
    ∃ tokens calls' context' pos', Lexer.run calls false context pos chars =
        tokens ++ Lexer.run calls' false context' pos' rest ∧
      tokens.map Token.word = words ∧ rest.length < calls' ∧
      context'.brackets.map Prod.fst = opened' ∧ context'.indents = context.indents := by
  induction lexes generalizing calls context pos with
  | done => exact ⟨[], calls, context, pos, rfl, rfl, enough, open_, rfl⟩
  | @blank _ chars _ _ _ _ ih =>
    obtain ⟨calls, rfl⟩ : ∃ fewer, calls = fewer + 1 := ⟨calls - 1, by omega⟩
    rw [List.length_cons] at enough
    have skipped : Lexer.run (calls + 1) false context pos (' ' :: chars) =
        Lexer.run calls false context (pos.after ' ') chars := by
      rw [Lexer.run.eq_def]
      simp
    rw [skipped]
    exact ih _ _ (by omega) open_
  | @name _ chars _ _ name _ plain ends _ ih =>
    obtain ⟨first, more, spelling, read⟩ := word?_name plain ends
    obtain ⟨_, _, spelling', starts, -⟩ := toList_of_isPlainName plain
    rw [spelling, List.cons.injEq] at spelling'
    obtain ⟨rfl, rfl⟩ := spelling'
    obtain ⟨calls, rfl⟩ : ∃ fewer, calls = fewer + 1 := ⟨calls - 1, by omega⟩
    have nested : bracketsAfter? context.brackets pos.row ' ' = some context.brackets := rfl
    obtain ⟨stop, ran⟩ := run_word calls (not_mem_unworded starts) read nested
    rw [spelling, List.cons_append] at enough ⊢
    rw [List.length_cons, List.length_append] at enough
    obtain ⟨tokens, calls', context', pos', later, spelled, enough', open', indents⟩ :=
      ih _ stop (by omega : _ < calls) open_
    refine ⟨.of (.name name) pos stop :: tokens, calls', context', pos', ?_, ?_, enough', open',
      indents⟩
    · rw [ran, later, List.cons_append]
    · rw [List.map_cons, spelled, Token.word_of]
  | @symbol _ chars _ _ _ c text _ inWord read nested _ ih =>
    obtain ⟨calls, rfl⟩ : ∃ fewer, calls = fewer + 1 := ⟨calls - 1, by omega⟩
    rw [← open_] at nested
    obtain ⟨brackets, nested, open_⟩ := bracketsAfter?_of_openAfter? nested pos.row
    obtain ⟨stop, ran⟩ := run_word calls inWord read nested
    rw [List.length_cons] at enough
    obtain ⟨tokens, calls', context', pos', later, spelled, enough', open', indents⟩ :=
      ih { context with brackets } stop (by omega : _ < calls) open_
    refine ⟨.of (.symbol text) pos stop :: tokens, calls', context', pos', ?_, ?_, enough', open',
      indents⟩
    · rw [ran, later, List.cons_append]
    · rw [List.map_cons, spelled, Token.word_of]

/-! ## A text of one line -/

private theorem unifyLineEnds_eq {text : List Char} (noReturn : '\r' ∉ text) :
    unifyLineEnds text = text := by
  fun_induction unifyLineEnds text with
  | case1 => rfl
  | case2 rest ih => simp at noReturn
  | case3 rest _ ih => simp at noReturn
  | case4 c rest _ _ ih => rw [ih fun member => noReturn (List.mem_cons_of_mem _ member)]

private theorem ending_eq {text : List Char} (oneLine : ∀ c ∈ text, c ≠ '\n' ∧ c ≠ '\r') :
    ending text = ['\n'] := by
  unfold ending
  split
  · rfl
  · rename_i backwards
    have member := List.mem_reverse.mp (backwards ▸ List.mem_cons_self ..)
    exact absurd rfl (oneLine '\n' member).1
  · rename_i backwards
    have member := List.mem_reverse.mp (backwards ▸ List.mem_cons_self ..)
    exact absurd rfl (oneLine '\r' member).2
  · rfl

/-- A line that starts with a name is not indented. -/
theorem run_start {first : Char} (starts : isNameStart first = true) (calls : Nat)
    (rest : List Char) :
    run (calls + 1) true ⟨[], []⟩ ⟨0, 0⟩ (first :: rest) =
      run calls false ⟨[], []⟩ ⟨0, 0⟩ (first :: rest) := by
  have inWord := not_mem_unworded starts
  simp only [unworded, List.mem_cons, List.not_mem_nil, or_false, not_or] at inWord
  obtain ⟨noBlank, noTab, noFeed, noComment, noEnd, noJoin⟩ := inWord
  have unindented : indentation ⟨[], []⟩ ⟨0, 0⟩ 0 ⟨0, 0⟩ (first :: rest) =
      .ok (⟨0, 0⟩, ⟨0, 0⟩, first :: rest) := by
    rw [indentation.eq_def]
    simp [noBlank, noTab, noFeed, noJoin]
  rw [run.eq_def]
  simp [unindented, noComment, noEnd, reindent, Context.indent]

/-- What follows the words of a line: its end, and the end of the text. -/
theorem run_end {calls : Nat} {context : Context} (pos : Pos) (enough : 1 < calls)
    (closed : context.brackets = []) (flat : context.indents = []) :
    (run calls false context pos ['\n']).map Token.word = [.newline, .finish] := by
  obtain ⟨calls, rfl⟩ : ∃ fewer, calls = fewer + 2 := ⟨calls - 2, by omega⟩
  simp [run, indentation, finish, closed, flat]

/-- The words of a text that is one line. -/
theorem map_word_tokens {first : Char} {rest : List Char} {words : List Word}
    (starts : isNameStart first = true) (oneLine : ∀ c ∈ first :: rest, c ≠ '\n' ∧ c ≠ '\r')
    (lexes : Lexes [] (first :: rest ++ ['\n']) words [] ['\n']) :
    (tokens (first :: rest)).map Token.word = words ++ [.newline, .finish] := by
  have unified : unifyLineEnds (first :: rest) = first :: rest :=
    unifyLineEnds_eq fun member => (oneLine _ member).2 rfl
  have enough : (first :: rest ++ ['\n']).length < 2 * (first :: rest ++ ['\n']).length + 1 := by
    omega
  obtain ⟨found, calls, context, pos, ran, spelled, enough', closed, flat⟩ :=
    lexes.run ⟨[], []⟩ ⟨0, 0⟩ enough rfl
  rw [tokens, tokensFrom, unified, ending_eq oneLine]
  simp only [List.cons_append] at ran ⊢
  rw [run_start starts, ran, List.map_append, spelled,
    run_end pos enough' (List.map_eq_nil_iff.mp closed) flat]

end Lexer

end CallSites.Source
