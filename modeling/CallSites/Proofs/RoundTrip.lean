import CallSites.Proofs.Answers
import CallSites.Proofs.Source.CallText
import CallSites.Proofs.Tree.Printer.Signature

/-! # Signatures and their texts

A signature with a dotted callee can be written down from its names, and compiling what was written
gives back what went in: the parameters in their order, a depth of one step for each dot, and the
text itself, whatever blank characters were around it.
-/

namespace CallSites

open CallSites.Tree (Value)

namespace Text

/-- Blank characters around a text are stripped if the text neither starts nor ends with one. -/
theorem strip_padded {before text after : List Char} (blankBefore : ∀ c ∈ before, isBlank c = true)
    (blankAfter : ∀ c ∈ after, isBlank c = true) {first last : Char}
    (starts : text.head? = some first) (given : isBlank first = false)
    (ends : text.getLast? = some last) (given' : isBlank last = false) :
    strip (before ++ text ++ after) = text := by
  have unpadded : (before ++ text ++ after).dropWhile isBlank = text ++ after := by
    obtain ⟨rest, rfl⟩ := List.head?_eq_some_iff.mp starts
    rw [List.append_assoc, List.dropWhile_append_of_pos blankBefore, List.cons_append,
      List.dropWhile_cons_of_neg (by simp [given])]
  have backwards : (after.reverse ++ text.reverse).dropWhile isBlank = text.reverse := by
    obtain ⟨init, rfl⟩ := List.getLast?_eq_some_iff.mp ends
    rw [List.dropWhile_append_of_pos (by simpa using blankAfter), List.reverse_append,
      List.reverse_singleton, List.singleton_append, List.dropWhile_cons_of_neg (by simp [given'])]
  rw [strip, unpadded, stripEnd, List.reverse_append, backwards, List.reverse_reverse]

end Text

namespace Source

open CallSites.Tree.Value (IsDotted retagItems)
open CallSites.Signature (Declares)
open Grammar

/-- A plain name is its own normal form. -/
theorem normalForm_of_isPlainName {name : String} (plain : isPlainName name = true) :
    Text.normalForm name = name := by
  rw [isPlainName, Bool.and_eq_true, Bool.and_eq_true] at plain
  exact Text.normalForm_of_ascii plain.1.1

/-- The tree of a path is a dotted path, however its values are tagged. -/
theorem isDotted_of_isPath {path : List String} {e : Expr} (isPath : IsPath path e)
    (names : ∀ name ∈ path, isPlainName name = true) (next : Nat) :
    IsDotted path ((e.tree .load).retag next).1 := by
  induction isPath generalizing next with
  | name isName =>
    obtain ⟨span, free, rfl⟩ := isName
    rw [List.forall_mem_singleton] at names
    simp only [Expr.tree, Identifier.name, normalForm_of_isPlainName names]
    exact .name
  | member _ ih =>
    rw [List.forall_mem_append, List.forall_mem_singleton] at names
    rw [normalForm_of_isPlainName names.2]
    exact .member (ih names.1 (next + 1))

private theorem declares_of_isDeclaration {entry : String × ParameterKind} {e : Expr}
    (isDeclaration : IsDeclaration entry e) (plain : isPlainName entry.1 = true) (next : Nat) :
    Declares ((e.tree .load).retag next).1 entry.1 entry.2 := by
  match entry with
  | (name, .mandatory) =>
    obtain ⟨span, free, rfl⟩ := isDeclaration
    simp only [Expr.tree, Identifier.name, normalForm_of_isPlainName plain]
    exact .bare rfl rfl
  | (name, .optional) =>
    obtain ⟨span, item, rfl, _, free, rfl⟩ := isDeclaration
    simp only [Expr.tree, exprTrees, Identifier.name, normalForm_of_isPlainName plain]
    exact .bracketed rfl rfl rfl rfl

private theorem declare_of_declarations {declared : List (String × ParameterKind)}
    {args : List Expr} (declarations : List.Forall₂ IsDeclaration declared args)
    (plain : ∀ entry ∈ declared, isPlainName entry.1 = true) (next : Nat) :
    List.Forall₂ (fun argument entry => Declares argument entry.1 entry.2)
      (retagItems next (exprTrees .load args)).1 declared := by
  induction declarations generalizing next with
  | nil => exact .nil
  | cons isDeclaration _ ih =>
    rw [List.forall_mem_cons] at plain
    exact .cons (declares_of_isDeclaration isDeclaration plain.1 next) (ih plain.2 _)

end Source

namespace Signature

open CallSites.Source (isPlainName)
open CallSites.Tree.Value (IsDotted)

/-- A call of a dotted path with declarations as its arguments. -/
inductive IsSignature (path : List String) (declared : List (String × ParameterKind)) :
    Value → Prop
  | call {tag tag' tag'' : Nat} {func : Value} {arguments : List Value}
      {marks : List (String × Value)} (dotted : IsDotted path func)
      (declare : List.Forall₂ (fun argument entry => Declares argument entry.1 entry.2) arguments
        declared) :
      IsSignature path declared
        (.node tag .call [some func, some (.list tag' arguments), some (.list tag'' [])] marks)

variable {path : List String} {declared : List (String × ParameterKind)}

/-- A signature is printed as its text. -/
theorem IsSignature.source {call : Value} (isSignature : IsSignature path declared call) :
    call.source = .ok (written path declared) := by
  obtain ⟨dotted, declare⟩ := isSignature
  rename_i tag tag' tag'' func arguments marks
  have higher : func.height < (Value.node tag .call
      [some func, some (.list tag' arguments), some (.list tag'' [])] marks).height := by
    simp only [Value.height, Value.slotsHeight]
    omega
  generalize held : Value.node tag .call
    [some func, some (.list tag' arguments), some (.list tag'' [])] marks = call at higher ⊢
  have carries : Carries call arguments [] := held ▸ ⟨rfl, ⟨_, rfl⟩, _, rfl⟩
  have enough := dotted.length_le_height
  have writes := Tree.Printer.writes_call carries (held ▸ rfl) dotted declare
    (by omega : path.length ≤ 2 * call.height - 1 + 2)
  rw [show 2 * call.height - 1 + 3 = 2 * call.height + 2 by omega] at writes
  rw [Tree.Printer.source_of_writes writes, ← toList_written, String.ofList_toList]

/-- A matcher for a signature has a callee one step deeper for each dot, which equals itself. -/
theorem IsSignature.calleeDepth {matcher : Matcher}
    (isSignature : IsSignature path declared matcher.call) (standard : matcher.keys = .standard) :
    matcher.calleeDepth = path.length - 1 ∧ matcher.func.equal matcher.func = true := by
  rw [Matcher.calleeDepth, Matcher.func, standard]
  obtain ⟨call, _, _, _⟩ := matcher
  obtain ⟨dotted, -⟩ := isSignature
  exact ⟨(dotted.depthFrom_standard 0).trans (Nat.zero_add _), dotted.equal_self⟩

section Text

variable (nonempty : path ≠ []) (names : ∀ name ∈ path, isPlainName name = true)
  (plain : ∀ entry ∈ declared, isPlainName entry.1 = true)

include nonempty names plain

/-- The text of a signature is parsed to a call with its path and its parameters. -/
theorem parser_written : ∃ tree body call,
    Source.parser (written path declared) unknownFile = .ok tree ∧
      tree.attr? "body" = some body ∧ SoleCall body call ∧ IsSignature path declared call := by
  obtain ⟨name, path, rfl⟩ := List.exists_cons_of_ne_nil nonempty
  obtain ⟨body, next, read, span, _, rfl, _, func, args, rfl, isPath, declarations⟩ :=
    Source.readFile_call names plain
  have clean : (written (name :: path) declared).toList.contains '\x00' = false := by
    rw [toList_written]
    exact Source.Lexer.contains_null_of_small (Source.Lexer.isSmall_call names plain)
  have parsed := Source.parseFile_of_clean clean 0
  rw [toList_written, read] at parsed
  exact ⟨_, _, _, Source.parser_of_parseFile (by decide) parsed, rfl, ⟨_, _, rfl, rfl, rfl, rfl⟩,
    .call (Source.isDotted_of_isPath isPath names _)
      (Source.declare_of_declarations declarations plain _)⟩

omit plain in
private theorem strip_written (before after : String)
    (blankBefore : before.toList.all Text.isBlank = true)
    (blankAfter : after.toList.all Text.isBlank = true) :
    Text.strip (before ++ written path declared ++ after).toList =
      (written path declared).toList := by
  obtain ⟨name, path, rfl⟩ := List.exists_cons_of_ne_nil nonempty
  obtain ⟨first, rest, spelled, starts, -, ascii⟩ :=
    Source.Lexer.toList_of_isPlainName (names name (List.mem_cons_self ..))
  have given : Text.isBlank first = false :=
    Source.Lexer.isBlank_of_isNameStart starts (ascii first (List.mem_cons_self ..))
  rw [String.toList_append, String.toList_append, toList_written]
  have start : (callChars (name :: path) declared).head? = some first := by
    simp [callChars, pathChars, spelled]
  have stop : (callChars (name :: path) declared).getLast? = some ')' := by
    rw [callChars, ← List.cons_append, ← List.append_assoc, List.getLast?_concat]
  exact Text.strip_padded (List.all_eq_true.mp blankBefore) (List.all_eq_true.mp blankAfter) start
    given stop (by decide)

/-- All texts that are the text of a signature but for blank characters around it are compiled to
one matcher, with the call that the text is parsed to. -/
theorem exists_compile_written (distinct : (declared.map Prod.fst).Nodup) : ∃ matcher : Matcher,
    (∀ text : String, Text.strip text.toList = (written path declared).toList →
      Matcher.compile text none = .ok matcher) ∧
    IsSignature path declared matcher.call ∧ matcher.signature = written path declared ∧
    matcher.keys = .standard ∧
    matcher.parameters.map (fun parameter => (parameter.name.text?, parameter.kind)) =
      declared.map fun entry => (some entry.1, entry.2) := by
  obtain ⟨tree, body, call, parsed, held, sole, isSignature⟩ := parser_written nonempty names plain
  have printed := isSignature.source
  obtain ⟨arguments, carries, pass⟩ : ∃ arguments, Carries call arguments [] ∧
      Pass arguments declared := by
    obtain ⟨-, declare⟩ := isSignature
    exact ⟨_, ⟨rfl, ⟨_, rfl⟩, _, rfl⟩, declare, distinct⟩
  have read (text : String) (stripped : Text.strip text.toList = (written path declared).toList) :
      Source.parser (String.ofList (Text.strip text.toList)) unknownFile = .ok tree := by
    rw [stripped, String.ofList_toList, parsed]
  have bare : Text.strip (written path declared).toList = (written path declared).toList := by
    simpa using strip_written nonempty names "" "" rfl rfl
  obtain ⟨matcher, compiled, rfl, signed, inUse, covers⟩ :=
    compileBy_of_pass Source.parser_documented (read _ bare) held sole carries pass printed none
  refine ⟨matcher, ?_, isSignature, signed, inUse, covers⟩
  intro text stripped
  have reads (text : String) (stripped : Text.strip text.toList = (written path declared).toList) :=
    parseBy_of_reads ⟨tree, body, arguments, declared, read text stripped, held, sole, carries,
      pass⟩
  rw [Matcher.compileBy, reads _ bare] at compiled
  rw [Matcher.compile, Matcher.compileBy, reads text stripped]
  exact compiled

end Text

/-- Compiling the text of a signature, with blank characters around it, gives back what it was
written from: the parameters, a callee one step deeper for each dot, and the text. Compiling the
text of the matcher again gives a matcher with that text, these parameters and an equal callee. -/
theorem compile_written (path : List String) (declared : List (String × ParameterKind))
    (nonempty : path ≠ []) (names : ∀ name ∈ path, isPlainName name = true)
    (plain : ∀ entry ∈ declared, isPlainName entry.1 = true)
    (distinct : (declared.map Prod.fst).Nodup) (before after : String)
    (blankBefore : before.toList.all Text.isBlank = true)
    (blankAfter : after.toList.all Text.isBlank = true) :
    ∃ matcher, Matcher.compile (before ++ written path declared ++ after) none = .ok matcher ∧
      matcher.parameters.map (fun parameter => (parameter.name.text?, parameter.kind)) =
        declared.map (fun entry => (some entry.1, entry.2)) ∧
      matcher.calleeDepth = path.length - 1 ∧
      matcher.signature = written path declared ∧
      ∃ again, Matcher.compile matcher.signature none = .ok again ∧
        again.signature = matcher.signature ∧ again.parameters = matcher.parameters ∧
        again.func.equal matcher.func = true := by
  obtain ⟨matcher, compiles, isSignature, signed, standard, covers⟩ :=
    exists_compile_written nonempty names plain distinct
  have padded : Text.strip (before ++ written path declared ++ after).toList =
      (written path declared).toList :=
    strip_written nonempty names before after blankBefore blankAfter
  have bare : Text.strip matcher.signature.toList = (written path declared).toList := by
    simpa [signed] using strip_written nonempty names "" "" rfl rfl
  obtain ⟨deep, equal⟩ := isSignature.calleeDepth standard
  exact ⟨matcher, compiles _ padded, covers, deep, signed, matcher, compiles _ bare, rfl, rfl,
    equal⟩

/-- The text `match.f(a, [b])` between blank characters. -/
theorem sampleText_compiles :
    ∃ matcher, Matcher.compile (" \n" ++ "match.f(a, [b])" ++ "\t") none = .ok matcher ∧
      matcher.parameters.map (fun parameter => (parameter.name.text?, parameter.kind)) =
        [(some "a", .mandatory), (some "b", .optional)] ∧
      matcher.calleeDepth = 1 ∧ matcher.signature = "match.f(a, [b])" ∧
      ∃ again, Matcher.compile matcher.signature none = .ok again ∧
        again.signature = matcher.signature ∧ again.parameters = matcher.parameters ∧
        again.func.equal matcher.func = true :=
  compile_written ["match", "f"] [("a", .mandatory), ("b", .optional)] (by decide)
    (by decide +kernel) (by decide +kernel) (by decide) " \n" "\t" (by decide) (by decide)

end Signature

end CallSites
