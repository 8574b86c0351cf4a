import CallSites.Tree.Printer

/-! # What printing writes

A printing step that succeeds adds pieces to what was written before. The text of a call ends in a
closing parenthesis, so it is never empty.
-/

namespace CallSites.Tree

namespace Printer

variable {α β : Type}

/-- A step that is followed by another one succeeds exactly if both do. -/
theorem run_bind_eq_ok {step : Print α} {next : α → Print β} {out : Output} {result : β × Output} :
    (step >>= next).run out = .ok result ↔
      ∃ value between, step.run out = .ok (value, between) ∧
        (next value).run between = .ok result := by
  rw [StateT.run_bind]
  cases first : step.run out with
  | error why => simp [bind, Except.bind]
  | ok pair =>
    obtain ⟨value, between⟩ := pair
    simp only [bind, Except.bind, Except.ok.injEq, Prod.mk.injEq]
    constructor
    · exact fun ran => ⟨value, between, ⟨rfl, rfl⟩, ran⟩
    · rintro ⟨_, _, ⟨rfl, rfl⟩, ran⟩
      exact ran

/-- What is enclosed ends with the closing text. -/
theorem pieces_of_enclose {first last : String} {step : Print Unit} {out out' : Output}
    (ran : (enclose first last step).run out = .ok ((), out')) :
    ∃ before, out'.pieces = .text last :: before := by
  simp only [enclose, run_bind_eq_ok] at ran
  obtain ⟨_, _, -, _, between, -, closed⟩ := ran
  cases closed
  exact ⟨between.pieces, rfl⟩

private theorem mapM_text?_concat {pieces : List Piece} {last : String} {texts : List String}
    (read : (pieces ++ [Piece.text last]).mapM Piece.text? = some texts) :
    ∃ before, texts = before ++ [last] := by
  rw [List.mapM_append] at read
  obtain ⟨before, -, read⟩ := Option.bind_eq_some_iff.mp read
  exact ⟨before, (Option.some.inj read).symm⟩

/-- Pieces of which the last one is not empty make a text that is not empty. -/
theorem isEmpty_of_joined {before : List Piece} {last text : String} {out out' : Output}
    (given : last.isEmpty = false)
    (ran : (joined (.text last :: before).reverse).run out = .ok (text, out')) :
    text.isEmpty = false := by
  unfold joined at ran
  split at ran
  · rename_i texts read
    cases ran
    rw [List.reverse_cons] at read
    obtain ⟨earlier, rfl⟩ := mapM_text?_concat read
    rw [String.isEmpty_eq_false_iff] at given ⊢
    intro empty
    have chars := congrArg String.toList empty
    rw [String.toList_join, List.flatMap_append, List.flatMap_singleton] at chars
    exact given (String.toList_inj.mp (List.append_eq_nil_iff.mp chars).2)
  · cases ran

/-- A node of a kind of expression is printed by the step of the kind. -/
theorem print_of_expression? {v : Value} {kind : Kind} (isKind : v.isKind kind = true) {bound : Nat}
    {step : Print Unit}
    (read : expression? (print bound .whole) (print bound .part) v kind = some step) :
    print (bound + 1) .whole v = step := by
  cases v with
  | node tag kind' slots marks =>
    obtain rfl : kind' = kind := by simpa [Value.isKind, Value.kind?] using isKind
    rw [print, printNode, read]
    rfl
  | _ => simp [Value.isKind, Value.kind?] at isKind

theorem print_call {v : Value} (isCall : v.isKind .call = true) (bound : Nat) :
    print (bound + 1) .whole v = call (print bound .whole) v :=
  print_of_expression? isCall rfl

/-- What is printed of a call ends with a closing parenthesis. -/
theorem pieces_of_call {visit : Value → Print Unit} {v : Value} {out out' : Output}
    (ran : (call visit v).run out = .ok ((), out')) :
    ∃ before, out'.pieces = .text ")" :: before := by
  simp only [call, run_bind_eq_ok] at ran
  obtain ⟨_, _, -, _, _, -, _, _, -, enclosed⟩ := ran
  exact pieces_of_enclose enclosed

/-! ## Steps that always succeed -/

/-- A step that succeeds, whatever was printed before, and writes some characters. -/
def Writes (step : Print Unit) (chars : List Char) : Prop :=
  ∀ out, ∃ (texts : List String) (out' : Output), step.run out = .ok ((), out') ∧
    out'.pieces = (texts.map .text).reverse ++ out.pieces ∧ texts.flatMap String.toList = chars

theorem Writes.pure : Writes (pure ()) [] := fun out => ⟨[], out, rfl, rfl, rfl⟩

theorem writes_write (text : String) : Writes (write text) text.toList :=
  fun _ => ⟨[text], _, rfl, rfl, List.flatMap_singleton ..⟩

theorem writes_writeValue (tag : Nat) (text : String) :
    Writes (writeValue (.plain tag (.str text))) text.toList :=
  fun _ => ⟨[text], _, rfl, rfl, List.flatMap_singleton ..⟩

theorem writes_ask {v : Value} (isNode : v.isNode = true) (level : Level) :
    Writes (ask level v) [] := by
  cases v with
  | node => exact fun _ => ⟨[], _, rfl, rfl, rfl⟩
  | _ => cases isNode

theorem Writes.bind {step next : Print Unit} {chars chars' : List Char}
    (first : Writes step chars) (second : Writes next chars') :
    Writes (step >>= fun _ => next) (chars ++ chars') := by
  intro out
  obtain ⟨texts, between, ran, pieces, rfl⟩ := first out
  obtain ⟨texts', out', ran', pieces', rfl⟩ := second between
  refine ⟨texts ++ texts', out', run_bind_eq_ok.mpr ⟨(), between, ran, ran'⟩, ?_,
    List.flatMap_append⟩
  rw [pieces', pieces, List.map_append, List.reverse_append, List.append_assoc]

theorem attr_bind {v w : Value} {name : String} (held : v.attr? name = some w)
    (next : Value → Print β) : (attr v name >>= next) = next w := by
  rw [attr, held]
  rfl

theorem attrElements_bind {v : Value} {name : String} {tag : Nat} {items : List Value}
    (held : v.attr? name = some (.list tag items)) (next : List Value → Print β) :
    (attrElements v name >>= next) = next items := by
  rw [attrElements, attr, held]
  rfl

theorem Writes.enclose {step : Print Unit} {chars : List Char} (inside : Writes step chars)
    (first last : String) :
    Writes (enclose first last step) (first.toList ++ (chars ++ last.toList)) :=
  (writes_write first).bind (inside.bind (writes_write last))

private theorem mapM_text?_text (texts : List String) :
    (texts.map Piece.text).mapM Piece.text? = some texts := by
  rw [List.mapM_map]
  exact (List.mapM_pure (f := id)).trans (congrArg some (List.map_id texts))

/-- What a tree is printed as, if its step writes it. -/
theorem source_of_writes {v : Value} {chars : List Char}
    (writes : Writes (print (2 * v.height + 2) .whole v) chars) :
    v.source = .ok (String.ofList chars) := by
  obtain ⟨texts, out, ran, pieces, rfl⟩ := writes {}
  have joins : (joined out.pieces.reverse).run out = .ok (String.join texts, out) := by
    rw [joined, pieces, List.append_nil, List.reverse_reverse, mapM_text?_text]
    rfl
  have printed : (printAll v).run {} = .ok (String.join texts, out) := by
    rw [printAll, run_bind_eq_ok]
    refine ⟨(), out, ran, ?_⟩
    rw [run_bind_eq_ok]
    exact ⟨out, out, rfl, joins⟩
  rw [Value.source, printed, finish, ← String.toList_join, String.ofList_toList]

end Printer

/-- The source text of a call is not empty. -/
theorem Value.isEmpty_source {v : Value} (isCall : v.isKind .call = true) {text : String}
    (printed : v.source = .ok text) : text.isEmpty = false := by
  unfold source Printer.finish at printed
  split at printed
  · rename_i out ran
    cases printed
    simp only [Printer.printAll, Printer.print_call isCall, Printer.run_bind_eq_ok] at ran
    obtain ⟨_, between, called, _, _, got, joined⟩ := ran
    cases got
    obtain ⟨before, pieces⟩ := Printer.pieces_of_call called
    rw [pieces] at joined
    exact Printer.isEmpty_of_joined rfl joined
  · cases printed

end CallSites.Tree
