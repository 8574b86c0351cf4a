import CallSites.Proofs.SignatureText
import CallSites.Proofs.Tree.Dotted
import CallSites.Proofs.Tree.Printer.Written
import CallSites.Proofs.Validation

/-! # Printing signatures

A call of a dotted path whose arguments declare parameters is printed as the text of the signature
with these parameters.
-/

namespace CallSites.Tree.Printer

open CallSites.Signature

private theorem print_name {v : Value} (isName : v.isKind .name = true) (bound : Nat) :
    print (bound + 1) .whole v = (attr v "id" >>= writeValue) :=
  print_of_expression? isName rfl

private theorem print_list {v : Value} (isList : v.isKind .list = true) (bound : Nat) :
    print (bound + 1) .whole v =
      enclose "[" "]" (attrElements v "elts" >>= commas (print bound .whole)) :=
  print_of_expression? isList rfl

private theorem print_member {v w : Value} (isMember : v.isKind .attributeRef = true)
    (held : v.attr? "value" = some w) (bound : Nat) :
    print (bound + 1) .whole v = (do
      ask .atom w
      print bound .whole w
      writeIf (needsBlank w) " "
      write "."
      writeValue (← attr v "attr")) := by
  rw [print_of_expression? isMember rfl, attr_bind held]

private theorem pathChars_append_singleton {path : List String} (some : path ≠ []) (name : String) :
    pathChars (path ++ [name]) = pathChars path ++ '.' :: name.toList := by
  cases path with
  | nil => exact absurd rfl some
  | cons first path => simp [pathChars, memberChars]

/-- A dotted path is written as its names with dots between them. -/
theorem writes_dotted {path : List String} {v : Value} (isDotted : v.IsDotted path) {bound : Nat}
    (enough : path.length ≤ bound) : Writes (print bound .whole v) (pathChars path) := by
  induction isDotted generalizing bound with
  | @name tag tag' usage name marks =>
    obtain ⟨bound, rfl⟩ := Nat.exists_eq_add_of_le' enough
    rw [List.length_singleton, print_name rfl, attr_bind rfl]
    simpa [pathChars, memberChars] using writes_writeValue tag' name
  | @member path v tag tag' usage name marks below ih =>
    rw [List.length_append, List.length_singleton] at enough
    obtain ⟨bound, rfl⟩ : ∃ fewer, bound = fewer + 1 := ⟨bound - 1, by omega⟩
    have whole : needsBlank v = false := by cases below <;> rfl
    rw [print_member rfl rfl, attr_bind rfl, whole, pathChars_append_singleton below.ne_nil]
    exact (writes_ask below.isNode .atom).bind <| (ih (by omega)).bind <| Writes.pure.bind <|
      (writes_write ".").bind (writes_writeValue tag' name)

private theorem writes_name {v : Value} {tag : Nat} {name : String} (isName : v.isKind .name = true)
    (held : v.attr? "id" = some (.plain tag (.str name))) (bound : Nat) :
    Writes (print (bound + 1) .whole v) name.toList := by
  rw [print_name isName, attr_bind held]
  exact writes_writeValue tag name

private theorem writes_declaration {argument : Value} {entry : String × ParameterKind}
    (declares : Declares argument entry.1 entry.2) (bound : Nat) :
    Writes (print (bound + 2) .whole argument) (declarationChars entry) := by
  obtain ⟨name, kind⟩ := entry
  cases declares with
  | bare isName held => exact writes_name isName held (bound + 1)
  | bracketed isList only isName held =>
    rw [print_list isList, attrElements_bind only]
    have inside := (writes_name isName held bound).bind .pure
    rw [List.append_nil] at inside
    exact inside.enclose "[" "]"

private theorem writes_further {arguments : List Value} {declared : List (String × ParameterKind)}
    (declare : List.Forall₂ (fun argument entry => Declares argument entry.1 entry.2) arguments
      declared) (bound : Nat) :
    Writes (arguments.forM fun argument => do
      write ", "
      print (bound + 2) .whole argument) (furtherChars declared) := by
  induction declare with
  | nil => exact .pure
  | @cons argument entry arguments declared declares _ ih =>
    have first := (writes_write ", ").bind (writes_declaration declares bound)
    simpa [furtherChars] using first.bind ih

private theorem writes_parameters {arguments : List Value}
    {declared : List (String × ParameterKind)}
    (declare : List.Forall₂ (fun argument entry => Declares argument entry.1 entry.2) arguments
      declared) (bound : Nat) :
    Writes (commas (print (bound + 2) .whole) arguments) (parameterChars declared) := by
  cases declare with
  | nil => exact .pure
  | cons declares others =>
    exact (writes_declaration declares bound).bind (writes_further others bound)

/-- A call of a dotted path with declarations as its arguments is written as a signature. -/
theorem writes_call {call func : Value} {path : List String} {arguments : List Value}
    {declared : List (String × ParameterKind)} (carries : Carries call arguments [])
    (callee : call.attr? "func" = some func) (isDotted : func.IsDotted path)
    (declare : List.Forall₂ (fun argument entry => Declares argument entry.1 entry.2) arguments
      declared) {bound : Nat} (enough : path.length ≤ bound + 2) :
    Writes (print (bound + 3) .whole call) (callChars path declared) := by
  obtain ⟨isCall, ⟨_, positional⟩, _, named⟩ := carries
  have inside : Writes (do
      let args ← attrElements call "args"
      commas (print (bound + 2) .whole) args
      continued (print (bound + 2) .whole) (!args.isEmpty) (← attrElements call "keywords"))
      (parameterChars declared) := by
    rw [attrElements_bind positional, attrElements_bind named]
    have ends : Writes (continued (print (bound + 2) .whole) (!arguments.isEmpty) []) [] := by
      rw [continued, List.isEmpty_nil, Bool.not_true, Bool.and_false]
      exact Writes.pure.bind .pure
    simpa using (writes_parameters declare bound).bind ends
  rw [print_call isCall, Printer.call, attr_bind callee]
  simpa [callChars] using (writes_ask isDotted.isNode .atom).bind
    ((writes_dotted isDotted enough).bind (inside.enclose "(" ")"))

/-! ## Names that are no texts

A value that is no text can be written, but then the pieces cannot be joined. So what could be
printed as a signature declares texts only.
-/

/-- If a step succeeds, it has added pieces to what was printed before, among them the given
ones. -/
def Adds (step : Print Unit) (pieces : List Piece) : Prop :=
  ∀ out out', step.run out = .ok ((), out') →
    ∃ added, out'.pieces = added ++ out.pieces ∧ pieces ⊆ added

theorem Adds.pure : Adds (pure ()) [] := by
  intro out out' ran
  cases ran
  exact ⟨[], rfl, List.Subset.refl _⟩

private theorem adds_write (text : String) : Adds (write text) [] := by
  intro out out' ran
  cases ran
  exact ⟨[.text text], rfl, List.nil_subset _⟩

private theorem adds_writeIf (needed : Bool) (text : String) : Adds (writeIf needed text) [] := by
  unfold writeIf
  split
  · exact adds_write text
  · exact .pure

private theorem adds_writeValue (v : Value) : Adds (writeValue v) [.ofValue v] := by
  intro out out' ran
  cases ran
  exact ⟨[.ofValue v], rfl, List.Subset.refl _⟩

theorem Adds.bind {step next : Print Unit} {pieces pieces' : List Piece}
    (first : Adds step pieces) (second : Adds next pieces') :
    Adds (step >>= fun _ => next) (pieces ++ pieces') := by
  intro out out' ran
  obtain ⟨_, between, ran, ran'⟩ := run_bind_eq_ok.mp ran
  obtain ⟨added, same, inside⟩ := first out between ran
  obtain ⟨added', same', inside'⟩ := second between out' ran'
  refine ⟨added' ++ added, by rw [same', same, List.append_assoc], ?_⟩
  exact List.append_subset.mpr
    ⟨List.subset_append_of_subset_right _ inside, List.subset_append_of_subset_left _ inside'⟩

theorem Adds.enclose {step : Print Unit} {pieces : List Piece} (inside : Adds step pieces)
    (first last : String) : Adds (enclose first last step) pieces := by
  have whole := (adds_write first).bind (inside.bind (adds_write last))
  rwa [List.append_nil, List.nil_append] at whole

/-- The name that an argument declares is among what is written of it. -/
theorem adds_declaration {argument name : Value}
    (read : Parameter.declaredName? argument = some name) (bound : Nat) :
    Adds (print (bound + 2) .whole argument) [.ofValue name] := by
  rcases declaredName?_eq_some read with ⟨isName, held⟩ | ⟨_, item, isList, only, isName, held⟩
  · rw [print_name isName, attr_bind held]
    exact adds_writeValue name
  · rw [print_list isList, attrElements_bind only]
    have inside : Adds (print (bound + 1) .whole item) [.ofValue name] := by
      rw [print_name isName, attr_bind held]
      exact adds_writeValue name
    exact (inside.bind .pure).enclose "[" "]"

private theorem adds_declarations {arguments names : List Value}
    (declare : List.Forall₂ (fun argument name => Parameter.declaredName? argument = some name)
      arguments names) (bound : Nat) :
    Adds (commas (print (bound + 2) .whole) arguments) (names.map Piece.ofValue) := by
  have further {arguments names : List Value}
      (declare : List.Forall₂ (fun argument name => Parameter.declaredName? argument = some name)
        arguments names) :
      Adds (arguments.forM fun argument => do
        write ", "
        print (bound + 2) .whole argument) (names.map Piece.ofValue) := by
    induction declare with
    | nil => exact .pure
    | cons read _ ih =>
      have first := (adds_write ", ").bind (adds_declaration read bound)
      simpa using first.bind ih
  cases declare with
  | nil => exact .pure
  | cons read others => exact (adds_declaration read bound).bind (further others)

/-- What does not count as true runs through nothing. -/
theorem elements_of_not_truthy {v : Value} (empty : v.truthy = false) {out out' : Output}
    {items : List Value} (ran : (elements v).run out = .ok (items, out')) :
    items = [] ∧ out' = out := by
  cases v with
  | list tag inside =>
    obtain rfl : inside = [] := by simpa [Value.truthy] using empty
    cases ran
    exact ⟨rfl, rfl⟩
  | plain tag content =>
    cases content with
    | str s =>
      obtain rfl : s = "" := by simpa [Value.truthy, Plain.truthy] using empty
      cases ran
      exact ⟨rfl, rfl⟩
    | bytes data =>
      obtain rfl : data = [] := by simpa [Value.truthy, Plain.truthy] using empty
      cases ran
      exact ⟨rfl, rfl⟩
    | surrogates => cases empty
    | _ => cases ran
  | node => cases empty

/-- No keywords are written of a call whose keywords do not count as true. -/
theorem adds_keywords {call keywords : Value} (held : call.attr? "keywords" = some keywords)
    (empty : keywords.truthy = false) (visit : Value → Print Unit) (later : Bool) :
    Adds (attrElements call "keywords" >>= continued visit later) [] := by
  rw [attrElements, attr_bind held]
  intro out out' ran
  obtain ⟨items, between, listed, rest⟩ := run_bind_eq_ok.mp ran
  obtain ⟨rfl, rfl⟩ := elements_of_not_truthy empty listed
  exact ((adds_writeIf _ ", ").bind .pure) between out' rest

/-- The names that the arguments of a call declare are among what is written of it. -/
theorem adds_call {call keywords : Value} {tag : Nat} {arguments names : List Value}
    (isCall : call.isKind .call = true) (listed : call.attr? "args" = some (.list tag arguments))
    (held : call.attr? "keywords" = some keywords) (empty : keywords.truthy = false)
    (declare : List.Forall₂ (fun argument name => Parameter.declaredName? argument = some name)
      arguments names) {bound : Nat} {out out' : Output}
    (ran : (print (bound + 3) .whole call).run out = .ok ((), out')) :
    names.map Piece.ofValue ⊆ out'.pieces := by
  rw [print_call isCall, Printer.call] at ran
  simp only [run_bind_eq_ok] at ran
  obtain ⟨_, _, -, _, _, -, _, between, -, enclosed⟩ := ran
  rw [attrElements_bind listed] at enclosed
  have inside := (adds_declarations declare bound).bind
    (adds_keywords held empty (print (bound + 2) .whole) (!arguments.isEmpty))
  rw [List.append_nil] at inside
  obtain ⟨added, pieces, among⟩ := inside.enclose "(" ")" between out' enclosed
  rw [pieces]
  exact List.subset_append_of_subset_left _ among

private theorem isSome_text?_of_mapM {pieces : List Piece} {texts : List String}
    (read : pieces.mapM Piece.text? = some texts) :
    ∀ piece ∈ pieces, piece.text?.isSome = true := by
  induction pieces generalizing texts with
  | nil => exact nofun
  | cons piece pieces ih =>
    simp only [List.mapM_cons, Option.bind_eq_bind, Option.bind_eq_some_iff] at read
    obtain ⟨first, isText, rest, read, -⟩ := read
    exact List.forall_mem_cons.mpr ⟨Option.isSome_of_eq_some isText, ih read⟩

/-- Pieces that are joined are texts. -/
theorem isSome_text?_of_joined {pieces : List Piece} {text : String} {out out' : Output}
    (ran : (joined pieces).run out = .ok (text, out')) :
    ∀ piece ∈ pieces, piece.text?.isSome = true := by
  unfold joined at ran
  split at ran
  · rename_i texts read
    exact isSome_text?_of_mapM read
  · cases ran

private theorem text?_ofValue (v : Value) : (Piece.ofValue v).text? = v.text? := by
  cases v with
  | plain tag content => cases content <;> rfl
  | _ => rfl

/-- A signature that has a source text declares texts. -/
theorem isSome_text?_of_source {call keywords : Value} {tag : Nat} {arguments names : List Value}
    {text : String} (isCall : call.isKind .call = true)
    (listed : call.attr? "args" = some (.list tag arguments))
    (held : call.attr? "keywords" = some keywords) (empty : keywords.truthy = false)
    (declare : List.Forall₂ (fun argument name => Parameter.declaredName? argument = some name)
      arguments names) (printed : call.source = .ok text) :
    ∀ name ∈ names, name.text?.isSome = true := by
  obtain ⟨bound, enough⟩ : ∃ bound, 2 * call.height + 2 = bound + 3 := by
    cases call with
    | node tag kind slots marks =>
      refine ⟨2 * Value.slotsHeight slots + 1, ?_⟩
      rw [Value.height]
      omega
    | _ => cases isCall
  unfold Value.source finish at printed
  split at printed
  · rename_i out ran
    rw [printAll, enough] at ran
    obtain ⟨_, between, called, ran⟩ := run_bind_eq_ok.mp ran
    obtain ⟨_, _, got, joins⟩ := run_bind_eq_ok.mp ran
    cases got
    intro name member
    have piece := adds_call isCall listed held empty declare called (List.mem_map_of_mem member)
    exact text?_ofValue name ▸ isSome_text?_of_joined joins _ (List.mem_reverse.mpr piece)
  · cases printed

end CallSites.Tree.Printer
