import CallSites.Proofs.Location
import CallSites.Proofs.Source.ParsedTree
import CallSites.Proofs.Validation

/-! # What is known of a parsed file

The tree of a parsed text is a file with a body. Its names are texts that are not empty, its calls
carry lists of arguments and keywords, and each of its nodes has a location. So a signature that is
read off it is judged by what it says alone, and a match of any of its calls can be located.

These facts, and which texts are refused for the null character, are all that is asked of a parser
of files. The parser of the library is such a one.
-/

namespace CallSites

open CallSites.Tree (Value)

namespace Tree.Value

private theorem attr?_name (tag : Nat) (id usage : Option Value) (marks : List (String × Value)) :
    (node tag .name [id, usage] marks).attr? "id" = id := rfl

/-- The slots of a regular name. -/
theorem slots_of_isRegular_name {v : Value} (built : v.isRegular = true)
    (isName : v.isKind .name = true) : ∃ tag tag' id usage marks,
      v = node tag .name [some (plain tag' (.str id)), usage] marks ∧ id.isEmpty = false := by
  cases v with
  | node tag kind slots marks =>
    obtain rfl : kind = .name := by simpa [isKind, kind?] using isName
    have parts : areNameSlots slots = true := by
      simp only [isRegular, Bool.and_eq_true] at built
      exact built.1.2
    unfold areNameSlots at parts
    split at parts
    · rename_i tag' id usage
      exact ⟨tag, tag', id, usage, marks, rfl, by simpa using parts⟩
    · cases parts
  | _ => simp [isKind, kind?] at isName

private theorem nameText?_of_isRegular {v : Value} (built : v.isRegular = true)
    (isName : v.isKind .name = true) : v.nameText?.any (fun name => !name.isEmpty) = true := by
  obtain ⟨tag, tag', id, usage, marks, rfl, given⟩ := slots_of_isRegular_name built isName
  rw [nameText?, attr, attr?_name]
  simp [reading, text?, given]

theorem hasLists_of_isRegular {call : Value} (built : call.isRegular = true)
    (isCall : call.isKind .call = true) : call.hasLists = true := by
  cases call with
  | node tag kind slots marks =>
    obtain rfl : kind = .call := by simpa [isKind, kind?] using isCall
    have parts : areCallSlots slots = true := by
      simp only [isRegular, Bool.and_eq_true] at built
      exact built.1.1.2
    unfold areCallSlots at parts
    split at parts
    · rfl
    · cases parts
  | _ => simp [isKind, kind?] at isCall

/-- A regular call is placed: its marks are none or those of a span. -/
theorem isPlaced_of_isRegular {call : Value} (built : call.isRegular = true)
    (isCall : call.isKind .call = true) : call.isPlaced = true := by
  cases call with
  | node tag kind slots marks =>
    obtain rfl : kind = .call := by simpa [isKind, kind?] using isCall
    have placed : (marks.isEmpty || areSpan marks) = true := by
      simp only [isRegular, Bool.and_eq_true] at built
      exact built.2
    rw [Bool.or_eq_true] at placed
    rcases placed with unplaced | span
    · rw [List.isEmpty_iff.mp unplaced]
      rfl
    · unfold areSpan at span
      split at span
      · rename_i _ line _ column _ endLine _
        simp only [Bool.and_eq_true, decide_eq_true_eq] at span
        change ((Extended.ofInt line).atLeast (.ofInt 1) &&
          (Extended.ofInt column).atLeast (.ofInt 0) &&
          (Extended.ofInt endLine).atLeast (.ofInt line)) = true
        simp only [Extended.atLeast_ofInt, Bool.and_eq_true, decide_eq_true_eq]
        exact span
      · cases span
  | _ => simp [isKind, kind?] at isCall

/-- The names of a regular tree are given after new tags. -/
theorem namesGiven_retag {v : Value} (all : v.regular = true) (next : Nat) :
    (v.retag next).1.NamesGiven := fun _ member isName =>
  nameText?_of_isRegular (isRegular_of_mem_nodes (regular_retag all next) member) isName

end Tree.Value

namespace Text

/-- The fault of a text that cannot be parsed for the characters in it. -/
def GivenText.forbidden? : GivenText → Option Fault
  | .chars text => if text.toList.contains '\x00' then some .nullCharacter else none
  | .surrogates _ => some .loneSurrogate

theorem GivenText.forbidden?_chars {text : String} :
    (chars text).forbidden? = none ↔ text.toList.contains '\x00' = false := by
  rw [forbidden?]
  cases text.toList.contains '\x00' <;> simp

end Text

namespace Source

/-- What is known of the tree of a file. -/
structure IsFile (tree : Value) : Prop where
  isFile : tree.isKind .file = true
  held : ∃ body, tree.attr? "body" = some body
  complete : tree.CallsComplete
  typed : tree.CallsTyped
  given : tree.NamesGiven
  placed : ∀ call ∈ tree.nodes, call.isKind .call = true → call.isPlaced = true

/-- What a parser of files is documented to do. The null character is refused in a text and in the
name of its file, and nothing else is refused like that. What it builds is the tree of a file. -/
structure FileParser.Documented (parser : FileParser) : Prop where
  refuses_iff : ∀ text filename, parser text filename = .error .nullCharacter ↔
    text.toList.contains '\x00' = true ∨ filename.holdsNull = true
  isFile : ∀ {text filename tree}, parser text filename = .ok tree → IsFile tree

/-- A text in the language, for a parser that is given it as the text of a file. -/
def FileParser.Accepts (parser : FileParser) (text : String) (filename : Text.GivenText) : Prop :=
  ∃ tree, parser text filename = .ok tree

/-- Without a null character, what is not accepted has a mistake. -/
theorem FileParser.Documented.exists_mistake {parser : FileParser} (documented : parser.Documented)
    {text : String} {filename : Text.GivenText} (clean : text.toList.contains '\x00' = false)
    (named : filename.holdsNull = false) (other : ¬ parser.Accepts text filename) :
    ∃ found, parser text filename = .error (.mistake found) := by
  cases answer : parser text filename with
  | ok tree => exact absurd ⟨tree, answer⟩ other
  | error refusal =>
    cases refusal with
    | nullCharacter =>
      rcases (documented.refuses_iff text filename).mp answer with null | null
      · rw [clean] at null
        cases null
      · rw [named] at null
        cases null
    | mistake found => exact ⟨found, rfl⟩

/-! ## The parser of the library -/

/-- How the statements of a text are read from its tokens. -/
def readFile (text : List Char) : Option (List Stmt × Cursor) :=
  let tokens := Formatted.resolve (text.length + 1) (Lexer.tokens text)
  Grammar.file (tokens.length + 1) ⟨tokens, ⟨0, 0⟩⟩

/-- A text without the null character is parsed if its statements can be read, and else it has a
mistake. -/
theorem parseFile_of_clean {text : String} (clean : text.toList.contains '\x00' = false)
    (tag : Nat) :
    parseFile tag text = match readFile text.toList with
      | some (body, _) => .ok ((fileTree body).retag tag)
      | none => .error (.mistake ⟨unworded, Blame.row .file
          (Formatted.resolve (text.toList.length + 1) (Lexer.tokens text.toList)) + 1⟩) := by
  rw [parseFile, parseWith, if_neg (Bool.eq_false_iff.mp clean)]
  cases read : readFile text.toList with
  | none =>
    unfold readFile at read
    simp only [read]
    rfl
  | some found =>
    unfold readFile at read
    simp only [read]
    rfl

/-- Every text that can be parsed has the tree of a file. -/
theorem isFile_of_parseFile {tag free : Nat} {text : String} {tree : Value}
    (parsed : parseFile tag text = .ok (tree, free)) : IsFile tree := by
  have built := isRegular_of_parseFile parsed
  obtain ⟨stmts, rfl⟩ := exists_fileTree_of_parseFile parsed
  exact {
    isFile := rfl
    held := ⟨_, rfl⟩
    complete := fun call member => Value.hasLists_of_isRegular (built call member)
    typed := fun call member => Value.hasTypedParts_of_isRegular (built call member)
    given := Value.namesGiven_retag (regular_fileTree stmts) _
    placed := fun call member => Value.isPlaced_of_isRegular (built call member) }

theorem parser_of_parseFile {text : String} {filename : Text.GivenText} {tree : Value} {free : Nat}
    (named : filename.holdsNull = false)
    (parsed : parseFile 0 text = .ok (tree, free)) : parser text filename = .ok tree := by
  rw [parser, if_neg (Bool.eq_false_iff.mp named), parsed]
  rfl

private theorem exists_parseFile_eq_ok {text : String} {filename : Text.GivenText} {tree : Value}
    (parsed : parser text filename = .ok tree) : ∃ free, parseFile 0 text = .ok (tree, free) := by
  unfold parser at parsed
  split at parsed
  · cases parsed
  · cases built : parseFile 0 text with
    | error refusal => simp [built, Except.map] at parsed
    | ok result =>
      rw [built] at parsed
      exact ⟨result.2, by rw [← Except.ok.inj parsed]⟩

/-- The parser of the library does what is documented of parsers. -/
theorem parser_documented : parser.Documented where
  refuses_iff text filename := by
    unfold parser
    by_cases named : filename.holdsNull = true
    · simp only [named, if_true, or_true]
    · rw [if_neg named, or_iff_left named]
      by_cases clean : text.toList.contains '\x00' = true
      · rw [parseFile, parseWith, if_pos clean]
        exact iff_of_true rfl clean
      · rw [parseFile_of_clean (Bool.eq_false_iff.mpr clean)]
        refine iff_of_false ?_ clean
        split <;> nofun
  isFile parsed := by
    obtain ⟨free, built⟩ := exists_parseFile_eq_ok parsed
    exact isFile_of_parseFile built

end Source

end CallSites
