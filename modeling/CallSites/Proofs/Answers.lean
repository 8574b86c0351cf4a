import CallSites.Proofs.Returning

/-! # What a search answers

A search for the calls of a signature in a source reads two texts with a parser of files. The
signature is judged first and by itself: a text that is no signature is answered with a diagnosis
that bears it, whatever the source is. A source that the parser does not accept is answered with a
diagnosis that bears the name of its file, and a search in any other source returns, as long as what
it finds can be printed. Three answers are no diagnoses: of a text with lone surrogates, of a text
or a name of a file with the null character, and of a bad source in a file without a name.

Of the parser only what is documented is used, and the parser of the library is such a one.
-/

namespace CallSites

open CallSites.Source (FileParser)
open CallSites.Text (GivenText)
open CallSites.Tree (TraversalKeys Value)

namespace Text

private theorem any_dropWhile {p skipped : Char → Bool}
    (apart : ∀ c, skipped c = true → p c = false) (text : List Char) :
    (text.dropWhile skipped).any p = text.any p := by
  induction text with
  | nil => rfl
  | cons c rest ih =>
    rw [List.dropWhile_cons]
    split
    · rename_i skip
      rw [ih, List.any_cons, apart c skip, Bool.false_or]
    · rfl

private theorem any_strip {p : Char → Bool} (apart : ∀ c, isBlank c = true → p c = false)
    (text : List Char) : (strip text).any p = text.any p := by
  rw [strip, stripEnd, List.any_reverse, any_dropWhile apart, List.any_reverse, any_dropWhile apart]

private theorem toNat_le_of_isBlank {c : Char} (blank : isBlank c = true) :
    9 ≤ c.toNat ∧ c.toNat ≤ 0x3000 := by
  simp only [isBlank, Bool.or_eq_true, Bool.and_eq_true, decide_eq_true_eq, beq_iff_eq] at blank
  omega

/-- Blank characters at the ends do not matter for the null character. -/
theorem contains_null_strip (text : List Char) :
    (strip text).contains '\x00' = text.contains '\x00' := by
  rw [List.contains_eq_any_beq, List.contains_eq_any_beq]
  refine any_strip ?_ text
  intro c blank
  have large := toNat_le_of_isBlank blank
  rw [beq_eq_false_iff_ne]
  rintro rfl
  simp at large

end Text

namespace Signature

/-- The text without blank characters at its ends is parsed to one call, whose arguments pass. -/
def Reads (parser : FileParser) (text : String) (call : Value) : Prop :=
  ∃ tree body arguments declared,
    parser (String.ofList (Text.strip text.toList)) unknownFile = .ok tree ∧
      tree.attr? "body" = some body ∧ SoleCall body call ∧ Carries call arguments [] ∧
      Pass arguments declared

theorem parseBy_of_reads {parser : FileParser} {text : String} {call : Value}
    (reads : Reads parser text call) : parseBy parser (.chars text) = .ok call := by
  obtain ⟨tree, body, arguments, declared, parsed, held, sole, carries, pass⟩ := reads
  simp only [parseBy, parsed]
  exact extract_of_pass held (some text) sole carries pass

section

variable {parser : FileParser} (documented : parser.Documented)

include documented

private theorem parseBy_of_forbidden {text : GivenText} {fault : Fault}
    (forbidden : text.forbidden? = some fault) : parseBy parser text = .error fault := by
  cases text with
  | surrogates text =>
    cases forbidden
    rfl
  | chars text =>
    rw [GivenText.forbidden?, ← Text.contains_null_strip] at forbidden
    split at forbidden
    · rename_i null
      cases forbidden
      rw [← @String.toList_ofList (Text.strip text.toList)] at null
      simp only [parseBy, (documented.refuses_iff _ unknownFile).mpr (Or.inl null)]
    · cases forbidden

/-- A clean text that is no signature is answered with a diagnosis that bears it. -/
theorem parseBy_of_not_reads {text : String} (clean : (GivenText.chars text).forbidden? = none)
    (other : ¬ ∃ call, Reads parser text call) :
    ∃ diagnosis, parseBy parser (.chars text) = .error (.diagnosed diagnosis) ∧
      diagnosis.signature? = some (some text) := by
  by_cases accepted : parser.Accepts (String.ofList (Text.strip text.toList)) unknownFile
  · obtain ⟨tree, parsed⟩ := accepted
    have file := documented.isFile parsed
    obtain ⟨body, held⟩ := file.held
    simp only [parseBy, parsed]
    rcases extract_cases file.isFile held file.given (some text) file.complete with
      ⟨call, arguments, declared, sole, carries, pass, -⟩ | ⟨-, answer⟩ |
      ⟨_, _, _, name, -, -, -, answer⟩ | ⟨_, _, _, -, -, -, answer⟩
    · exact absurd ⟨call, tree, body, arguments, declared, parsed, held, sole, carries, pass⟩ other
    · exact ⟨_, answer, rfl⟩
    · exact ⟨_, answer, rfl⟩
    · exact ⟨_, answer, rfl⟩
  · have noNull : (String.ofList (Text.strip text.toList)).toList.contains '\x00' = false := by
      rw [String.toList_ofList, Text.contains_null_strip]
      exact GivenText.forbidden?_chars.mp clean
    obtain ⟨found, refused⟩ := documented.exists_mistake noNull (by decide) accepted
    have worded : (if found.message.isEmpty = true then found.described unknownFile
        else .chars found.message).isEmpty = false := by
      split
      · exact found.isEmpty_described unknownFile
      · exact (GivenText.isEmpty_chars _).trans (Bool.eq_false_iff.mpr ‹_›)
    simp only [parseBy, refused, Diagnosis.unreadableSignature?, worded]
    exact ⟨_, rfl, rfl⟩

private theorem reads_of_parseBy {text : String} {call : Value}
    (parsed : parseBy parser (.chars text) = .ok call) : Reads parser text call := by
  have clean : (GivenText.chars text).forbidden? = none := by
    cases forbidden : (GivenText.chars text).forbidden? with
    | none => rfl
    | some fault =>
      rw [parseBy_of_forbidden documented forbidden] at parsed
      cases parsed
  by_contra other
  have unread : ¬ ∃ call, Reads parser text call := by
    rintro ⟨call', reads⟩
    rw [parseBy_of_reads reads, Except.ok.injEq] at parsed
    exact other (parsed ▸ reads)
  obtain ⟨diagnosis, refused, -⟩ := parseBy_of_not_reads documented clean unread
  rw [refused] at parsed
  cases parsed

/-- A call with arguments that pass is compiled as soon as it can be printed, to a matcher with its
text and the declared parameters. -/
theorem compileBy_of_pass {text source : String} {tree body call : Value} {arguments : List Value}
    {declared : List (String × ParameterKind)}
    (read : parser (String.ofList (Text.strip text.toList)) unknownFile = .ok tree)
    (held : tree.attr? "body" = some body) (sole : SoleCall body call)
    (carries : Carries call arguments []) (pass : Pass arguments declared)
    (printed : call.source = .ok source) (keys : Option TraversalKeys) :
    ∃ matcher, Matcher.compileBy parser (.chars text) keys = .ok matcher ∧ matcher.call = call ∧
      matcher.signature = source ∧ matcher.keys = Options.inUse keys ∧
      matcher.parameters.map (fun parameter => (parameter.name.text?, parameter.kind)) =
        declared.map fun entry => (some entry.1, entry.2) := by
  have parsed : parseBy parser (.chars text) = .ok call :=
    parseBy_of_reads ⟨tree, body, arguments, declared, read, held, sole, carries, pass⟩
  have file := documented.isFile read
  have names := argumentNames_of_given file.given (mem_nodes_of_sole file.isFile held sole) carries
  obtain ⟨matcher, built, covers⟩ := ofCall_of_pass carries names pass printed keys
  obtain ⟨-, _, _, -, -, -, printed', same, inUse⟩ := Matcher.ofCall_eq_ok.mp built
  refine ⟨matcher, ?_, same, Except.ok.inj (printed'.symm.trans printed), inUse, covers⟩
  rw [Matcher.compileBy, parsed]
  exact built

/-- A signature is compiled as soon as it can be printed, to a matcher with its text. -/
theorem compileBy_of_reads {text source : String} {call : Value} (reads : Reads parser text call)
    (printed : call.source = .ok source) (keys : Option TraversalKeys) :
    ∃ matcher, Matcher.compileBy parser (.chars text) keys = .ok matcher ∧
      matcher.signature = source := by
  obtain ⟨tree, body, arguments, declared, read, held, sole, carries, pass⟩ := reads
  obtain ⟨matcher, compiled, -, signed, -⟩ :=
    compileBy_of_pass documented read held sole carries pass printed keys
  exact ⟨matcher, compiled, signed⟩

end

end Signature

/-! ## Searches that return -/

/-- All expressions of a tree can be printed. -/
def Tree.Value.Prints (tree : Value) : Prop :=
  ∀ v ∈ tree.nodes, v.isExpression = true → ∃ text, v.source = .ok text

namespace Scan

/-- The match of an accepted call of a file can be built. -/
theorem exists_buildMatch_of_isFile {tree call : Value} (file : Source.IsFile tree)
    (prints : tree.Prints) (member : call ∈ tree.nodes) (isCall : call.isKind .call = true)
    {matcher : Matcher} (named : matcher.signature.isEmpty = false) :
    ∃ found, buildMatch matcher call = .ok found := by
  obtain ⟨arguments, keywords, -, ⟨tag, listed⟩, -⟩ :=
    Signature.carries_of_complete file.complete member isCall
  have known : Matcher.arguments? call = some arguments :=
    Matcher.arguments?_eq_some.mpr ⟨isCall, tag, listed⟩
  have expressions : ∀ argument ∈ arguments, argument.isExpression = true := by
    have typed := file.typed call member isCall
    rw [Value.hasTypedParts, known, Option.getD_some, Bool.and_eq_true] at typed
    exact List.all_eq_true.mp typed.1
  have print : ∀ argument ∈ arguments, ∃ text, argument.source = .ok text := by
    intro argument among
    have expression := expressions argument among
    refine prints argument (Value.mem_nodes_of_child member ?_) expression
    refine Value.mem_children_of_attr? isCall (by decide) listed ?_
    exact List.mem_filter.mpr ⟨among, Value.isNode_of_isExpression expression⟩
  exact exists_buildMatch named known expressions print
    (Location.exists_of_isPlaced (file.placed call member isCall))

/-- A scan of a file returns if its expressions can be printed. -/
theorem exists_scan_eq_ok {tree : Value} (file : Source.IsFile tree) (prints : tree.Prints)
    (matchers : List Matcher) (named : ∀ matcher ∈ matchers, matcher.signature.isEmpty = false) :
    ∃ found, scan tree matchers = .ok found := by
  have built : ∀ entry ∈ acceptances tree matchers,
      ∃ found, buildMatch entry.matcher entry.call = .ok found := by
    intro entry member
    have among := (mem_acceptances member).1
    obtain ⟨visited, isCall⟩ := List.mem_filter.mp (call_mem_of_acceptances member)
    exact exists_buildMatch_of_isFile file prints visited isCall (named _ among)
  rw [scan_eq_mapM (Signature.isNode_of_isKind file.isFile)]
  exact Outcome.exists_mapM_eq_ok built

end Scan

section

variable {parser : FileParser} (documented : parser.Documented)

include documented

private theorem parseSource_of_null (source : GivenText) {filename : GivenText}
    (null : filename.holdsNull = true) :
    parseSource parser source filename = .error .nullCharacter := by
  cases source with
  | chars source =>
    simp only [parseSource, (documented.refuses_iff source filename).mpr (Or.inr null)]
  | surrogates source => rw [parseSource, if_pos null]

private theorem parseSource_of_forbidden {source filename : GivenText} {fault : Fault}
    (named : filename.holdsNull = false) (forbidden : source.forbidden? = some fault) :
    parseSource parser source filename = .error fault := by
  cases source with
  | chars source =>
    rw [GivenText.forbidden?] at forbidden
    split at forbidden
    · rename_i null
      cases forbidden
      simp only [parseSource, (documented.refuses_iff source filename).mpr (Or.inl null)]
    · cases forbidden
  | surrogates source =>
    cases forbidden
    rw [parseSource, if_neg (Bool.eq_false_iff.mp named)]

/-- A source with a mistake is answered with the name of its file, which has to have one. -/
theorem parseSource_of_not_accepted {source : String} {filename : GivenText}
    (named : filename.holdsNull = false) (clean : (GivenText.chars source).forbidden? = none)
    (other : ¬ parser.Accepts source filename) :
    ∃ reason, parseSource parser (.chars source) filename =
      .error (if filename.isEmpty then .emptyText .filename
        else .diagnosed (.unreadableSource filename reason)) := by
  obtain ⟨found, refused⟩ :=
    documented.exists_mistake (GivenText.forbidden?_chars.mp clean) named other
  refine ⟨.chars "syntax error: " ++ found.described filename, ?_⟩
  have worded : (GivenText.chars "syntax error: " ++ found.described filename).isEmpty = false := by
    rw [GivenText.isEmpty_append, found.isEmpty_described, Bool.and_false]
  simp only [parseSource, refused, Diagnosis.unreadableSource?, worded]
  by_cases unnamed : filename.isEmpty = true
  · simp only [unnamed, if_true]
    rfl
  · simp only [unnamed]
    rfl

end

/-- What a search answers, with every parser of files that does what is documented. A signature with
a forbidden character is answered with that, and any other text that is no signature with a
diagnosis that bears it, whatever the source is. With a signature, the null character in the name of
the file and a forbidden character in the source are answered with that, a source that the parser
does not accept with a diagnosis that bears the name of the file unless that is empty, and all
others are searched. -/
theorem findCalls_answers {parser : FileParser} (documented : parser.Documented)
    (keys : Option TraversalKeys) :
    (∀ signature fault, GivenText.forbidden? signature = some fault →
      ∀ source filename, findCallsBy parser source signature filename keys = .error fault) ∧
    (∀ signature, (GivenText.chars signature).forbidden? = none →
      (¬ ∃ call, Signature.Reads parser signature call) →
        ∃ diagnosis, diagnosis.signature? = some (some signature) ∧ ∀ source filename,
          findCallsBy parser source (.chars signature) filename keys =
            .error (.diagnosed diagnosis)) ∧
    ∀ signature call text, Signature.Reads parser signature call → call.source = .ok text →
      ∀ filename,
        (filename.holdsNull = true → ∀ source,
          findCallsBy parser source (.chars signature) filename keys = .error .nullCharacter) ∧
        (filename.holdsNull = false →
          (∀ source fault, GivenText.forbidden? source = some fault →
            findCallsBy parser source (.chars signature) filename keys = .error fault) ∧
          (∀ source, (GivenText.chars source).forbidden? = none → ¬ parser.Accepts source filename →
            ∃ reason, findCallsBy parser (.chars source) (.chars signature) filename keys =
              .error (if filename.isEmpty then .emptyText .filename
                else .diagnosed (.unreadableSource filename reason))) ∧
          ∀ source tree, parser source filename = .ok tree → tree.Prints → ∃ matcher found,
            findCallsBy parser (.chars source) (.chars signature) filename keys =
              .ok (matcher, found)) := by
  have refuses {signature : GivenText} {fault : Fault}
      (refused : Signature.parseBy parser signature = .error fault)
      (source filename : GivenText) :
      findCallsBy parser source signature filename keys = .error fault := by
    rw [findCallsBy, Matcher.compileBy, refused]
    rfl
  refine ⟨?_, ?_, ?_⟩
  · intro signature fault forbidden
    exact refuses (Signature.parseBy_of_forbidden documented forbidden)
  · intro signature clean other
    obtain ⟨diagnosis, refused, bears⟩ := Signature.parseBy_of_not_reads documented clean other
    exact ⟨diagnosis, bears, refuses refused⟩
  · intro signature call text reads printed filename
    obtain ⟨matcher, compiled, signed⟩ := Signature.compileBy_of_reads documented reads printed keys
    have answers (source : GivenText) :
        findCallsBy parser source (.chars signature) filename keys =
          parseSource parser source filename >>= fun tree =>
            scan tree [matcher] >>= fun found => .ok (matcher, found) := by
      rw [findCallsBy, compiled]
      rfl
    refine ⟨?_, fun named => ⟨?_, ?_, ?_⟩⟩
    · intro null source
      rw [answers, parseSource_of_null documented source null]
      rfl
    · intro source fault forbidden
      rw [answers, parseSource_of_forbidden documented named forbidden]
      rfl
    · intro source clean other
      obtain ⟨reason, refused⟩ := parseSource_of_not_accepted documented named clean other
      refine ⟨reason, ?_⟩
      rw [answers, refused]
      rfl
    · intro source tree parsed prints
      have isCall : call.isKind .call = true := by
        obtain ⟨_, _, _, _, -, -, -, carries, -⟩ := reads
        exact carries.isCall
      have given : matcher.signature.isEmpty = false := by
        rw [signed]
        exact Tree.Value.isEmpty_source isCall printed
      obtain ⟨found, scanned⟩ := Scan.exists_scan_eq_ok (documented.isFile parsed) prints
        [matcher] (by simpa using given)
      refine ⟨matcher, found, ?_⟩
      have read : parseSource parser (.chars source) filename = .ok tree := by
        simp only [parseSource, parsed]
      rw [answers, read]
      change (scan tree [matcher] >>= _) = _
      rw [scanned]
      rfl

/-- A search for `f(a)` in `f(1)` returns. -/
theorem sampleSearch_returns :
    ∃ matcher found, findCalls "f(1)" "f(a)" "<string>" none = .ok (matcher, found) := by
  obtain ⟨call, parsed⟩ : ∃ call, Signature.parse "f(a)" = .ok call :=
    Outcome.exists_eq_ok (by decide +kernel)
  obtain ⟨text, printed⟩ : ∃ text, call.source = .ok text := by
    have prints : (Signature.parse "f(a)" >>= Value.source).isOk = true := by decide +kernel
    rw [parsed] at prints
    exact Outcome.exists_eq_ok prints
  obtain ⟨tree, accepted⟩ : ∃ tree, Source.parser "f(1)" "<string>" = .ok tree :=
    Outcome.exists_eq_ok (by decide +kernel)
  have prints : tree.Prints := by
    have checked : (Source.parser "f(1)" "<string>").toOption.all (fun tree => tree.nodes.all
        fun v => !v.isExpression || v.source.isOk) = true := by decide +kernel
    rw [accepted] at checked
    intro v member expression
    have either := List.all_eq_true.mp checked v member
    rw [expression, Bool.not_true, Bool.false_or] at either
    exact Outcome.exists_eq_ok either
  have reads := Signature.reads_of_parseBy Source.parser_documented parsed
  exact (((findCalls_answers Source.parser_documented none).2.2 "f(a)" call text reads printed
    "<string>").2 (by decide +kernel)).2.2 "f(1)" tree accepted prints

/-- The three answers that are no diagnoses: a signature and a source with the null character, and
a bad source in a file without a name. -/
theorem searches_not_diagnosed :
    let fault? (source signature filename : String) : Option Fault :=
      match findCalls source signature filename none with
      | .ok _ => none
      | .error fault => some fault
    fault? "x" "f(a)\x00" "<string>" = some .nullCharacter ∧
      fault? "x\x00" "f(a)" "<string>" = some .nullCharacter ∧
      fault? "x x" "f(a)" "" = some (.emptyText .filename) := by
  decide +kernel

end CallSites
