import CallSites.Proofs.SignatureText
import CallSites.Proofs.Source.CallLine
import CallSites.Proofs.Source.Lexing
import CallSites.Proofs.Source.ParsedFile
import Mathlib

/-! # Reading the text of a signature

The characters of a signature are split into its words, and none of them is forbidden. So its text
is read as a call of its path, whatever the names are.
-/

namespace CallSites.Source

open CallSites.Signature
open CallSites.Source.Grammar

namespace Lexer

theorem Lexes.lone {c : Char} {opened chars between opened' rest : List Char} {words : List Word}
    (lone : c ∈ loneSymbols) (nested : openAfter? opened c = some between)
    (later : Lexes between chars words opened' rest) :
    Lexes opened (c :: chars) (.symbol (String.ofList [c]) :: words) opened' rest := by
  have others : ∀ c ∈ loneSymbols, c ∉ unworded ∧
      (isNameStart c = false ∧ isQuote c = false ∧ c.isDigit = false) ∧ c ≠ '.' := by
    simp [loneSymbols, unworded, isNameStart, isQuote]
  have printable : loneSymbols.all Text.isPrintable = true := by decide +kernel
  obtain ⟨inWord, other, noDot⟩ := others c lone
  exact .symbol inWord (word?_symbol (symbol_lone lone chars) other (by simp [noDot])
    (List.all_eq_true.mp printable c lone)) nested later

private theorem le_toNat_of_isNameStart {c : Char} (starts : isNameStart c = true) :
    65 ≤ c.toNat := by
  simp only [isNameStart, Char.isAlpha, Char.isUpper, Char.isLower, UInt32.le_iff_toNat_le,
    Bool.or_eq_true, Bool.and_eq_true, decide_eq_true_eq, beq_iff_eq] at starts
  rcases starts with (letter | rfl) | large
  · simp at letter
    omega
  · decide
  · omega

private theorem le_toNat_of_isNameChar {c : Char} (letter : isNameChar c = true) :
    48 ≤ c.toNat := by
  have either : isNameStart c = true ∨ c.isDigit = true := by
    simp only [isNameChar, isNameStart, Char.isAlphanum, Bool.or_eq_true] at letter ⊢
    tauto
  rcases either with starts | digit
  · exact Nat.le_trans (by decide) (le_toNat_of_isNameStart starts)
  · simp [Char.isDigit, UInt32.le_iff_toNat_le] at digit
    exact digit.1

private theorem isDigit_of_isNameStart {c : Char} (starts : isNameStart c = true) :
    c.isDigit = false := by
  have large := le_toNat_of_isNameStart starts
  rw [Bool.eq_false_iff]
  intro digit
  simp [Char.isDigit, UInt32.le_iff_toNat_le] at digit
  omega

theorem isBlank_of_isNameStart {c : Char} (starts : isNameStart c = true) (ascii : c.toNat < 128) :
    Text.isBlank c = false := by
  have large := le_toNat_of_isNameStart starts
  rw [Bool.eq_false_iff]
  intro blank
  simp only [Text.isBlank, Bool.or_eq_true, Bool.and_eq_true, decide_eq_true_eq, beq_iff_eq]
    at blank
  omega

theorem Lexes.dot {name : String} (plain : isPlainName name = true)
    {chars opened rest : List Char} {words : List Word}
    (later : Lexes [] (name.toList ++ chars) words opened rest) :
    Lexes [] ('.' :: (name.toList ++ chars)) (.symbol "." :: words) opened rest := by
  obtain ⟨first, more, spelled, starts, -⟩ := toList_of_isPlainName plain
  have noDot : first ≠ '.' := by
    rintro rfl
    cases starts
  rw [spelled, List.cons_append] at later ⊢
  refine .symbol (by decide) (word?_symbol (symbol_dot noDot _) (by decide) ?_ (by decide)) ?_ later
  · simp [isDigit_of_isNameStart starts]
  · rfl

private theorem lexes_declaration {entry : String × ParameterKind}
    (plain : isPlainName entry.1 = true) {chars : List Char}
    (ends : chars.head?.any endsName = true) :
    Lexes ['('] (declarationChars entry ++ chars) (declarationWords entry) ['('] chars := by
  match entry with
  | (name, .mandatory) => exact .name plain ends .done
  | (name, .optional) =>
    have inside : Lexes ['[', '('] (name.toList ++ ']' :: chars) [.name name, .symbol "]"] ['(']
        chars := .name plain rfl (.lone (by decide) (by decide) .done)
    simpa [declarationChars, declarationWords] using
      Lexes.lone (by decide : '[' ∈ loneSymbols) (by decide) inside

private theorem head_furtherChars (declared : List (String × ParameterKind)) (after : List Char) :
    (furtherChars declared ++ ')' :: after).head?.any endsName = true := by
  cases declared <;> rfl

private theorem lexes_further {declared : List (String × ParameterKind)}
    (plain : ∀ entry ∈ declared, isPlainName entry.1 = true) (after : List Char) :
    Lexes ['('] (furtherChars declared ++ ')' :: after) (furtherWords declared) ['(']
      (')' :: after) := by
  induction declared with
  | nil => exact .done
  | cons entry later ih =>
    rw [List.forall_mem_cons] at plain
    have inside := (lexes_declaration plain.1 (head_furtherChars later after)).trans (ih plain.2)
    simpa [furtherChars, furtherWords] using
      Lexes.lone (by decide : ',' ∈ loneSymbols) (by decide) (.blank inside)

private theorem lexes_parameters {declared : List (String × ParameterKind)}
    (plain : ∀ entry ∈ declared, isPlainName entry.1 = true) (after : List Char) :
    Lexes ['('] (parameterChars declared ++ ')' :: after) (parameterWords declared) ['(']
      (')' :: after) := by
  cases declared with
  | nil => exact .done
  | cons entry later =>
    rw [List.forall_mem_cons] at plain
    rw [parameterChars, parameterWords, List.append_assoc]
    exact (lexes_declaration plain.1 (head_furtherChars later after)).trans
      (lexes_further plain.2 after)

private theorem head_memberChars (path : List String) (after : List Char) :
    (memberChars path ++ '(' :: after).head?.any endsName = true := by
  cases path <;> rfl

private theorem lexes_members {path : List String} (plain : ∀ name ∈ path, isPlainName name = true)
    (after : List Char) :
    Lexes [] (memberChars path ++ '(' :: after) (memberWords path) [] ('(' :: after) := by
  induction path with
  | nil => exact .done
  | cons name path ih =>
    rw [List.forall_mem_cons] at plain
    simpa [memberChars, memberWords] using
      Lexes.dot plain.1 (.name plain.1 (head_memberChars path after) (ih plain.2))

/-- The characters of a call are read as its words. -/
theorem lexes_call {name : String} {path : List String} {declared : List (String × ParameterKind)}
    (names : ∀ part ∈ name :: path, isPlainName part = true)
    (plain : ∀ entry ∈ declared, isPlainName entry.1 = true) :
    Lexes [] (callChars (name :: path) declared ++ ['\n']) (callWords name path declared) []
      ['\n'] := by
  rw [List.forall_mem_cons] at names
  have closing : Lexes ['('] [')', '\n'] [.symbol ")"] [] ['\n'] :=
    .lone (by decide) (by decide) .done
  have arguments : Lexes [] ('(' :: (parameterChars declared ++ [')', '\n']))
      (.symbol "(" :: (parameterWords declared ++ [.symbol ")"])) [] ['\n'] :=
    .lone (by decide) (by decide) ((lexes_parameters plain ['\n']).trans closing)
  have members := (lexes_members names.2 _).trans arguments
  simpa [callChars, pathChars, callWords] using
    Lexes.name names.1 (head_memberChars path (parameterChars declared ++ [')', '\n'])) members

/-- Whether a character is a blank or a mark of ASCII. -/
def isSmall (c : Char) : Bool := decide (32 ≤ c.toNat) && decide (c.toNat < 128)

private theorem isSmall_name {name : String} (plain : isPlainName name = true) :
    ∀ c ∈ name.toList, isSmall c = true := by
  obtain ⟨first, rest, spelled, -, inside, ascii⟩ := toList_of_isPlainName plain
  rw [spelled]
  intro c member
  have large := le_toNat_of_isNameChar (inside c member)
  rw [isSmall, Bool.and_eq_true, decide_eq_true_eq, decide_eq_true_eq]
  exact ⟨by omega, ascii c member⟩

private theorem isSmall_declaration {entry : String × ParameterKind}
    (plain : isPlainName entry.1 = true) : ∀ c ∈ declarationChars entry, isSmall c = true := by
  match entry with
  | (name, .mandatory) => exact isSmall_name plain
  | (name, .optional) =>
    rw [declarationChars, List.forall_mem_cons, List.forall_mem_append]
    exact ⟨by decide, isSmall_name plain, List.forall_mem_singleton.mpr (by decide)⟩

private theorem isSmall_further {declared : List (String × ParameterKind)}
    (plain : ∀ entry ∈ declared, isPlainName entry.1 = true) :
    ∀ c ∈ furtherChars declared, isSmall c = true := by
  rw [furtherChars, List.forall_mem_flatMap]
  intro entry among
  rw [List.forall_mem_cons, List.forall_mem_cons]
  exact ⟨by decide, by decide, isSmall_declaration (plain entry among)⟩

private theorem isSmall_parameters {declared : List (String × ParameterKind)}
    (plain : ∀ entry ∈ declared, isPlainName entry.1 = true) :
    ∀ c ∈ parameterChars declared, isSmall c = true := by
  cases declared with
  | nil => exact nofun
  | cons entry later =>
    rw [List.forall_mem_cons] at plain
    rw [parameterChars, List.forall_mem_append]
    exact ⟨isSmall_declaration plain.1, isSmall_further plain.2⟩

private theorem isSmall_members {path : List String}
    (names : ∀ name ∈ path, isPlainName name = true) :
    ∀ c ∈ memberChars path, isSmall c = true := by
  rw [memberChars, List.forall_mem_flatMap]
  intro name among
  rw [List.forall_mem_cons]
  exact ⟨by decide, isSmall_name (names name among)⟩

theorem isSmall_call {name : String} {path : List String}
    {declared : List (String × ParameterKind)}
    (names : ∀ part ∈ name :: path, isPlainName part = true)
    (plain : ∀ entry ∈ declared, isPlainName entry.1 = true) :
    ∀ c ∈ callChars (name :: path) declared, isSmall c = true := by
  rw [List.forall_mem_cons] at names
  simp only [callChars, pathChars, List.forall_mem_append, List.forall_mem_cons]
  exact ⟨⟨isSmall_name names.1, isSmall_members names.2⟩, by decide, isSmall_parameters plain,
    by decide, List.forall_mem_nil _⟩

theorem contains_null_of_small {text : List Char} (small : ∀ c ∈ text, isSmall c = true) :
    text.contains '\x00' = false := by
  rw [List.contains_eq_mem, decide_eq_false_iff_not]
  intro member
  cases small _ member

/-- The words of a text that is a call. -/
theorem map_word_tokens_call {name : String} {path : List String}
    {declared : List (String × ParameterKind)}
    (names : ∀ part ∈ name :: path, isPlainName part = true)
    (plain : ∀ entry ∈ declared, isPlainName entry.1 = true) :
    (tokens (callChars (name :: path) declared)).map Token.word = lineWords name path declared := by
  have lexes := lexes_call names plain
  have small := isSmall_call names plain
  obtain ⟨first, rest, spelled, starts, -⟩ :=
    toList_of_isPlainName (names name (List.mem_cons_self ..))
  rw [callChars, pathChars, spelled, List.cons_append, List.cons_append] at lexes small ⊢
  refine map_word_tokens starts ?_ lexes
  intro c member
  have small := small c member
  constructor
  · rintro rfl
    cases small
  · rintro rfl
    cases small

end Lexer

/-- Tokens among which there is no string stay as they are. -/
theorem resolve_eq {tokens : List Token}
    (unquoted : ∀ part, ∀ word ∈ tokens.map Token.word, word ≠ .string part) (depth : Nat) :
    Formatted.resolve depth tokens = tokens := by
  cases depth with
  | zero => rfl
  | succ depth =>
    rw [Formatted.resolve]
    refine (List.map_congr_left fun token member => ?_).trans (List.map_id _)
    unfold Formatted.resolveToken
    split
    · rename_i same
      exact absurd same (unquoted _ _ (List.mem_map_of_mem member))
    · rfl

/-- A text that is a call is read as one. -/
theorem readFile_call {name : String} {path : List String}
    {declared : List (String × ParameterKind)}
    (names : ∀ part ∈ name :: path, isPlainName part = true)
    (plain : ∀ entry ∈ declared, isPlainName entry.1 = true) :
    ∃ body next, readFile (callChars (name :: path) declared) = some (body, next) ∧
      IsLine (name :: path) declared body := by
  have words := Lexer.map_word_tokens_call names plain
  have enough : 3 ≤ (Lexer.tokens (callChars (name :: path) declared)).length := by
    have length := congrArg List.length words
    rw [List.length_map] at length
    simp [length, lineWords, callWords]
    omega
  obtain ⟨levels, count⟩ := Nat.exists_eq_add_of_le' enough
  obtain ⟨body, next, read, -, isLine⟩ := reads_file (levels + 1)
    (fun entry among => isFree_of_isPlainName (plain entry among))
    (fun part among => isFree_of_isPlainName (names part among))
    ⟨Lexer.tokens (callChars (name :: path) declared), ⟨0, 0⟩⟩ words
  refine ⟨body, next, ?_, isLine⟩
  have unquoted : ∀ part, ∀ word ∈ lineWords name path declared, word ≠ .string part := by
    intro part
    rw [lineWords, List.forall_mem_append]
    exact ⟨(Lexer.lexes_call names plain).ne_string part, by simp⟩
  rw [readFile, resolve_eq (words ▸ unquoted), count]
  exact read

end CallSites.Source
