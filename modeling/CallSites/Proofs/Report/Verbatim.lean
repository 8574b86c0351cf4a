import CallSites.Report.Overview
import CallSites.Scan
import Mathlib

/-! # Texts that a report shows as they are

The texts of matches are escaped before they become cells of a table, so that their tags are not
taken for styles. What is shown of an escaped text is computed here for every text: tags come out as
they were written, with all backslashes before them, but outside of tags a backslash before an
opening bracket is lost, codes of pictures are replaced, and a single backslash at the end is
doubled. So a text is shown verbatim exactly if it has none of these.
-/

namespace CallSites.Report.Markup

open CallSites.Text (picture?)

/-! ## Tags -/

/-- What stands between the brackets of a tag. -/
def IsTagBody (body : List Char) : Prop :=
  ∃ first rest, body = first :: rest ∧ opensTag first = true ∧ ∀ c ∈ rest, inTag c = true

/-- A piece as it stands in a text. -/
def Piece.source : Piece → List Char
  | plain text => text
  | tag backslashes body => List.replicate backslashes '\\' ++ tagText body

private theorem tag?_backslash (text : List Char) :
    tag? ('\\' :: text) = (tag? text).map fun found => (found.1 + 1, found.2) := by
  have skipped : ('\\' :: text).dropWhile isBackslash = text.dropWhile isBackslash := rfl
  have counted : ('\\' :: text).takeWhile isBackslash = '\\' :: text.takeWhile isBackslash := rfl
  unfold tag?
  rw [skipped, counted]
  split
  · split
    · split <;> rfl
    · rfl
  · rfl

private theorem tag?_tagText {body : List Char} (isBody : IsTagBody body) (after : List Char) :
    tag? (tagText body ++ after) = some (0, body, after) := by
  obtain ⟨first, rest, rfl, opens, inside⟩ := isBody
  have none : (tagText (first :: rest) ++ after).takeWhile isBackslash = [] := rfl
  have skipped : (tagText (first :: rest) ++ after).dropWhile isBackslash =
      '[' :: first :: (rest ++ ']' :: after) := by
    simp [tagText, isBackslash]
  have closed : (rest ++ ']' :: after).dropWhile inTag = ']' :: after := by
    rw [List.dropWhile_append_of_pos inside]
    rfl
  have read : (rest ++ ']' :: after).takeWhile inTag = rest := by
    rw [List.takeWhile_append_of_pos inside]
    simp [inTag]
  simp only [tag?, skipped, opens, closed, read, none, if_true, List.length_nil]

/-- A text starts with a tag exactly if it consists of backslashes, a body in brackets, and what
follows them. -/
theorem tag?_eq_some {text body after : List Char} {n : Nat} :
    tag? text = some (n, body, after) ↔
      IsTagBody body ∧ text = (Piece.tag n body).source ++ after := by
  constructor
  · intro found
    induction text generalizing n with
    | nil => simp [tag?] at found
    | cons c text ih =>
      by_cases backslash : c = '\\'
      · subst backslash
        rw [tag?_backslash, Option.map_eq_some_iff] at found
        obtain ⟨⟨m, rest⟩, found, shifted⟩ := found
        cases shifted
        obtain ⟨isBody, rfl⟩ := ih found
        exact ⟨isBody, by simp [Piece.source, List.replicate_succ]⟩
      · have skipped : (c :: text).dropWhile isBackslash = c :: text := by
          simp [isBackslash, backslash]
        have none : (c :: text).takeWhile isBackslash = [] := by simp [isBackslash, backslash]
        unfold tag? at found
        rw [skipped, none] at found
        split at found
        · rename_i first rest start
          split at found
          · split at found
            · rename_i opens _ last finish
              simp only [Option.some.injEq, Prod.mk.injEq, List.length_nil] at found
              obtain ⟨rfl, rfl, rfl⟩ := found
              refine ⟨⟨first, _, rfl, opens, fun c => List.mem_takeWhile_imp⟩, ?_⟩
              have cut : rest = rest.takeWhile inTag ++ ']' :: last := by
                rw [← finish, List.takeWhile_append_dropWhile]
              rw [start]
              simp only [Piece.source, tagText, List.replicate_zero, List.nil_append,
                List.cons_append, List.append_assoc, ← cut]
            · cases found
          · cases found
        · cases found
  · rintro ⟨isBody, rfl⟩
    induction n with
    | zero => exact tag?_tagText isBody after
    | succ n ih =>
      rw [Piece.source, List.replicate_succ, List.cons_append, List.cons_append, tag?_backslash]
      rw [Piece.source] at ih
      rw [ih]
      rfl

private theorem tag?_of_ne {c : Char} (noBackslash : c ≠ '\\')
    (noBracket : c ≠ '[') (text : List Char) : tag? (c :: text) = none := by
  rw [Option.eq_none_iff_forall_ne_some]
  rintro ⟨n, body, after⟩ found
  obtain ⟨-, same⟩ := tag?_eq_some.mp found
  cases n with
  | zero => exact noBracket (List.cons.inj same).1
  | succ n => exact noBackslash (List.cons.inj same).1

/-! ## Cutting a text at its tags -/

private theorem pieces_of_tag {text body after : List Char} {n : Nat}
    (found : tag? text = some (n, body, after)) : pieces text = .tag n body :: pieces after := by
  cases text with
  | nil => simp [tag?] at found
  | cons c rest =>
    rw [pieces]
    split
    · rename_i found'
      rw [found] at found'
      cases found'
      rfl
    · rename_i noTag
      rw [found] at noTag
      cases noTag

private theorem pieces_of_none {c : Char} {rest : List Char} (noTag : tag? (c :: rest) = none) :
    pieces (c :: rest) = push c (pieces rest) := by
  rw [pieces]
  split
  · rename_i found
    rw [noTag] at found
    cases found
  · rfl

@[simp] theorem pieces_nil : pieces [] = [] := by rw [pieces]

/-- An induction on a text that goes on behind a tag where there is one, and else behind the next
character. -/
theorem pieces_induction {motive : List Char → Prop} (nil : motive [])
    (tagged : ∀ n body after, IsTagBody body → motive after →
      motive ((Piece.tag n body).source ++ after))
    (other : ∀ c rest, tag? (c :: rest) = none → motive rest → motive (c :: rest))
    (text : List Char) : motive text := by
  induction text using pieces.induct with
  | case1 => exact nil
  | case2 c rest n body after found ih =>
    obtain ⟨isBody, same⟩ := tag?_eq_some.mp found
    rw [same]
    exact tagged n body after isBody ih
  | case3 c rest noTag ih => exact other c rest noTag ih

@[simp] theorem flatMap_push {write : Piece → List Char}
    (plain : ∀ text, write (.plain text) = text) (c : Char) (parts : List Piece) :
    (push c parts).flatMap write = c :: parts.flatMap write := by
  cases parts with
  | nil => simp [push, plain]
  | cons part rest => cases part <;> simp [push, plain]

/-- The pieces of a text make up the text. -/
theorem flatMap_source_pieces (text : List Char) : (pieces text).flatMap Piece.source = text := by
  induction text using pieces_induction with
  | nil => rw [pieces_nil, List.flatMap_nil]
  | tagged n body after isBody ih =>
    rw [pieces_of_tag (tag?_eq_some.mpr ⟨isBody, rfl⟩), List.flatMap_cons, ih]
  | other c rest noTag ih => rw [pieces_of_none noTag, flatMap_push (fun _ => rfl), ih]

/-- The text with its tags made plain text, before a look at its end. -/
def escapeTags (text : List Char) : List Char := (pieces text).flatMap Piece.escape

@[simp] theorem escapeTags_nil : escapeTags [] = [] := by simp [escapeTags]

private theorem escapeTags_tag {body : List Char} (isBody : IsTagBody body) (n : Nat)
    (after : List Char) : escapeTags ((Piece.tag n body).source ++ after) =
      (Piece.tag (2 * n + 1) body).source ++ escapeTags after := by
  rw [escapeTags, pieces_of_tag (tag?_eq_some.mpr ⟨isBody, rfl⟩), List.flatMap_cons]
  rfl

private theorem escapeTags_cons {c : Char} {rest : List Char} (noTag : tag? (c :: rest) = none) :
    escapeTags (c :: rest) = c :: escapeTags rest := by
  rw [escapeTags, pieces_of_none noTag, flatMap_push (fun _ => rfl), escapeTags]

/-! ## Escaping makes no new tags -/

/-- Whether a body that goes on with the text is closed. -/
def closes (text : List Char) : Bool := (text.dropWhile inTag).head? == some ']'

private theorem closes_tag (n : Nat) (body after : List Char) :
    closes ((Piece.tag n body).source ++ after) = false := by
  have skipped : ((Piece.tag n body).source ++ after).dropWhile inTag = tagText body ++ after := by
    rw [Piece.source, List.append_assoc, List.dropWhile_append_of_pos]
    · rfl
    · intro c member
      rw [List.eq_of_mem_replicate member]
      rfl
  rw [closes, skipped]
  rfl

private theorem closes_escapeTags (text : List Char) : closes (escapeTags text) = closes text := by
  induction text using pieces_induction with
  | nil => rw [escapeTags_nil]
  | tagged n body after isBody ih =>
    rw [escapeTags_tag isBody, closes_tag, closes_tag]
  | other c rest noTag ih =>
    rw [escapeTags_cons noTag]
    unfold closes at ih ⊢
    rw [List.dropWhile_cons, List.dropWhile_cons]
    split
    · exact ih
    · rfl

private theorem tag?_bracket_isSome (text : List Char) : (tag? ('[' :: text)).isSome = true ↔
    ∃ first rest, text = first :: rest ∧ opensTag first = true ∧ closes rest = true := by
  constructor
  · intro found
    obtain ⟨⟨n, body, after⟩, found⟩ := Option.isSome_iff_exists.mp found
    obtain ⟨⟨first, rest, rfl, opens, inside⟩, same⟩ := tag?_eq_some.mp found
    cases n with
    | zero =>
      refine ⟨first, rest ++ ']' :: after, ?_, opens, ?_⟩
      · simpa [Piece.source, tagText] using same
      · rw [closes, List.dropWhile_append_of_pos inside]
        rfl
    | succ n => simp [Piece.source, List.replicate_succ] at same
  · rintro ⟨first, rest, rfl, opens, closed⟩
    obtain ⟨after, finish⟩ : ∃ after, rest.dropWhile inTag = ']' :: after := by
      rw [closes, beq_iff_eq, List.head?_eq_some_iff] at closed
      exact closed
    have found : tag? ('[' :: first :: rest) = some (0, first :: rest.takeWhile inTag, after) := by
      refine tag?_eq_some.mpr ⟨⟨first, _, rfl, opens, fun c => List.mem_takeWhile_imp⟩, ?_⟩
      have cut : rest = rest.takeWhile inTag ++ ']' :: after := by
        rw [← finish, List.takeWhile_append_dropWhile]
      simp only [Piece.source, tagText, List.replicate_zero, List.nil_append, List.cons_append,
        List.append_assoc, ← cut]
    rw [found]
    rfl

/-- A text that starts with no tag starts with none after escaping. -/
theorem tag?_escapeTags {text : List Char} (noTag : tag? text = none) :
    tag? (escapeTags text) = none := by
  induction text with
  | nil => rwa [escapeTags_nil]
  | cons c rest ih =>
    rw [escapeTags_cons noTag]
    by_cases backslash : c = '\\'
    · subst backslash
      rw [tag?_backslash, Option.map_eq_none_iff] at noTag
      rw [tag?_backslash, ih noTag]
      rfl
    · by_cases bracket : c = '['
      · subst bracket
        -- What the bracket would open is neither opened nor closed by an added backslash.
        rw [← Option.not_isSome_iff_eq_none, tag?_bracket_isSome] at noTag ⊢
        rintro ⟨first, more, same, opens, closed⟩
        cases rest using pieces_induction with
        | nil => simp at same
        | tagged n body after isBody =>
          rw [escapeTags_tag isBody] at same
          obtain ⟨rfl, -⟩ := List.cons.inj same
          simp [opensTag] at opens
        | other d rest noTag' =>
          rw [escapeTags_cons noTag'] at same
          obtain ⟨rfl, rfl⟩ := List.cons.inj same
          rw [closes_escapeTags] at closed
          exact noTag ⟨d, rest, rfl, opens, closed⟩
      · exact tag?_of_ne backslash bracket _

/-- A piece after escaping: a tag has twice as many backslashes and one more. -/
def Piece.escaped : Piece → Piece
  | plain text => plain text
  | tag backslashes body => tag (2 * backslashes + 1) body

private theorem map_escaped_push (c : Char) (parts : List Piece) :
    (push c parts).map Piece.escaped = push c (parts.map Piece.escaped) := by
  cases parts with
  | nil => rfl
  | cons part rest => cases part <;> rfl

/-- An escaped text has the pieces of the text, each of them escaped. -/
theorem pieces_escapeTags (text : List Char) :
    pieces (escapeTags text) = (pieces text).map Piece.escaped := by
  induction text using pieces_induction with
  | nil => simp
  | tagged n body after isBody ih =>
    rw [escapeTags_tag isBody, pieces_of_tag (tag?_eq_some.mpr ⟨isBody, rfl⟩), ih,
      pieces_of_tag (tag?_eq_some.mpr ⟨isBody, rfl⟩)]
    rfl
  | other c rest noTag ih =>
    have stillNone := tag?_escapeTags noTag
    rw [escapeTags_cons noTag] at stillNone ⊢
    rw [pieces_of_none stillNone, ih, pieces_of_none noTag, map_escaped_push]

/-! ## The end of a text -/

/-- The backslashes with which a text ends. -/
def trail (text : List Char) : List Char := text.reverse.takeWhile isBackslash

private theorem trail_cons (c : Char) (rest : List Char) :
    trail (c :: rest) =
      if rest.all isBackslash then trail rest ++ [c].takeWhile isBackslash else trail rest := by
  have whole : rest.reverse.takeWhile isBackslash = rest.reverse ↔ rest.all isBackslash = true := by
    rw [List.takeWhile_eq_self_iff, List.all_eq_true]
    simp only [List.mem_reverse]
  unfold trail
  rw [List.reverse_cons, List.takeWhile_append]
  by_cases all : rest.all isBackslash = true
  · rw [whole.mpr all, if_pos rfl, if_pos all]
  · rw [if_neg, if_neg all]
    intro same
    exact all (whole.mp ((List.takeWhile_prefix isBackslash).eq_of_length same))

private theorem trail_append_tag (n : Nat) (body after : List Char) :
    trail ((Piece.tag n body).source ++ after) = trail after := by
  have reversed : ((Piece.tag n body).source ++ after).reverse =
      after.reverse ++ ']' :: (List.replicate n '\\' ++ '[' :: body).reverse := by
    simp [Piece.source, tagText]
  rw [trail, reversed, List.takeWhile_append]
  split
  · rename_i whole
    have same := (List.takeWhile_prefix isBackslash).eq_of_length whole
    rw [trail, same]
    simp [isBackslash]
  · rfl

private theorem all_escapeTags (text : List Char) :
    (escapeTags text).all isBackslash = text.all isBackslash := by
  induction text using pieces_induction with
  | nil => rw [escapeTags_nil]
  | tagged n body after isBody ih =>
    rw [escapeTags_tag isBody]
    simp [Piece.source, tagText, isBackslash]
  | other c rest noTag ih => rw [escapeTags_cons noTag, List.all_cons, List.all_cons, ih]

private theorem trail_escapeTags (text : List Char) : trail (escapeTags text) = trail text := by
  induction text using pieces_induction with
  | nil => rw [escapeTags_nil]
  | tagged n body after isBody ih =>
    rw [escapeTags_tag isBody, trail_append_tag, trail_append_tag, ih]
  | other c rest noTag ih =>
    rw [escapeTags_cons noTag, trail_cons, trail_cons, all_escapeTags, ih]

/-- The backslash that is added to a single one at the end of a text. -/
def extraBackslash (text : List Char) : List Char := if endsInBackslash text then ['\\'] else []

private theorem escape_eq (text : List Char) :
    escape text = escapeTags text ++ extraBackslash text := by
  have same : endsInBackslash (escapeTags text) = endsInBackslash text := by
    change ((trail _).length == 1) = ((trail _).length == 1)
    rw [trail_escapeTags]
  unfold escape extraBackslash
  change (if endsInBackslash (escapeTags text) then _ else _) = _
  rw [same]
  split
  · rfl
  · rw [List.append_nil]
    rfl

/-! ## What is shown -/

private theorem withoutBracketEscapes_of_not_mem {text : List Char} (noBracket : '[' ∉ text) :
    withoutBracketEscapes text = text := by
  fun_induction withoutBracketEscapes text with
  | case1 rest ih => simp at noBracket
  | case2 c rest other ih => rw [ih (fun member => noBracket (List.mem_cons_of_mem _ member))]
  | case3 => rfl

private theorem pieces_of_not_mem {text : List Char} (noBracket : '[' ∉ text) (some : text ≠ []) :
    pieces text = [.plain text] := by
  induction text using pieces_induction with
  | nil => exact absurd rfl some
  | tagged n body after isBody ih => simp [Piece.source, tagText] at noBracket
  | other c rest noTag ih =>
    rw [pieces_of_none noTag]
    by_cases last : rest = []
    · rw [last, pieces_nil]
      rfl
    · rw [ih (fun member => noBracket (List.mem_cons_of_mem _ member)) last]
      rfl

/-- A text is shown piece by piece, also where it is not searched for tags. -/
theorem shown_eq (text : List Char) : shown text = (pieces text).flatMap Piece.shown := by
  unfold shown
  split
  · rfl
  · rename_i noBracket
    by_cases some : text = []
    · subst some
      simp [plainShown, withPictures]
    · rw [pieces_of_not_mem noBracket some, List.flatMap_singleton, Piece.shown,
        withoutBracketEscapes_of_not_mem noBracket]

private theorem withoutBracketEscapes_snoc (text : List Char) :
    withoutBracketEscapes (text ++ ['\\']) = withoutBracketEscapes text ++ ['\\'] := by
  fun_induction withoutBracketEscapes text with
  | case1 rest ih => simpa [withoutBracketEscapes] using ih
  | case2 c rest other ih =>
    rw [List.cons_append, withoutBracketEscapes, ih, List.cons_append]
    rintro rest' rfl same
    cases rest with
    | nil => simp at same
    | cons d rest =>
      obtain ⟨rfl, -⟩ := List.cons.inj same
      exact other rest rfl rfl
  | case3 => rfl

private theorem withPictures_colon_code {rest after : List Char}
    (closed : rest.dropWhile inCode = ':' :: after) :
    withPictures (':' :: rest) = (picture? (rest.takeWhile inCode)).getD
      (':' :: rest.takeWhile inCode ++ [':']) ++ withPictures after := by
  rw [withPictures, if_pos rfl]
  split
  · rename_i after' closed'
    rw [closed] at closed'
    cases closed'
    rfl
  · rename_i isOpen
    exact absurd closed (isOpen after)

private theorem withPictures_colon_open {rest : List Char}
    (isOpen : ∀ after, rest.dropWhile inCode ≠ ':' :: after) :
    withPictures (':' :: rest) = ':' :: withPictures rest := by
  rw [withPictures, if_pos rfl]
  split
  · rename_i after closed
    exact absurd closed (isOpen after)
  · rfl

private theorem withPictures_of_ne {c : Char} (noColon : c ≠ ':') (rest : List Char) :
    withPictures (c :: rest) = c :: withPictures rest := by
  rw [withPictures, if_neg noColon]

@[simp] theorem withPictures_nil : withPictures [] = [] := by rw [withPictures]

/-- An induction on a text that goes on behind a code between colons where there is one, and else
behind the next character. -/
theorem codes_induction {motive : List Char → Prop} (nil : motive [])
    (code : ∀ rest after, rest.dropWhile inCode = ':' :: after → motive after →
      motive (':' :: rest))
    (colon : ∀ rest, (∀ after, rest.dropWhile inCode ≠ ':' :: after) → motive rest →
      motive (':' :: rest))
    (other : ∀ c rest, c ≠ ':' → motive rest → motive (c :: rest)) (text : List Char) :
    motive text := by
  induction text using withPictures.induct with
  | case1 => exact nil
  | case2 rest after closed ih => exact code rest after closed ih
  | case3 rest isOpen ih => exact colon rest isOpen ih
  | case4 c rest noColon ih => exact other c rest noColon ih

private theorem takeWhile_snoc {rest after : List Char} {c : Char}
    (stops : rest.dropWhile inCode = c :: after) (extra : List Char) :
    (rest ++ extra).takeWhile inCode = rest.takeWhile inCode ∧
      (rest ++ extra).dropWhile inCode = c :: (after ++ extra) := by
  have cut : rest = rest.takeWhile inCode ++ c :: after := by
    rw [← stops, List.takeWhile_append_dropWhile]
  have inside : ∀ d ∈ rest.takeWhile inCode, inCode d = true := fun d => List.mem_takeWhile_imp
  have outside : inCode c = false := by
    have := List.head_dropWhile_not inCode (by rw [stops]; simp : rest.dropWhile inCode ≠ [])
    simpa [stops] using this
  have longer : rest ++ extra = rest.takeWhile inCode ++ c :: (after ++ extra) := by
    conv => lhs; rw [cut]
    rw [List.append_assoc, List.cons_append]
  rw [longer, List.takeWhile_append_of_pos inside, List.dropWhile_append_of_pos inside]
  simp [outside]

private theorem withPictures_snoc (text : List Char) :
    withPictures (text ++ ['\\']) = withPictures text ++ ['\\'] := by
  induction text using codes_induction with
  | nil => simp [withPictures_of_ne]
  | code rest after closed ih =>
    obtain ⟨code, longer⟩ := takeWhile_snoc closed ['\\']
    rw [List.cons_append, withPictures_colon_code longer, withPictures_colon_code closed, ih, code,
      List.append_assoc]
  | colon rest isOpen ih =>
    rw [List.cons_append, withPictures_colon_open, withPictures_colon_open isOpen, ih,
      List.cons_append]
    intro after closed
    cases stops : rest.dropWhile inCode with
    | nil => simp [List.dropWhile_append, stops, inCode, Text.isBlank] at closed
    | cons c before =>
      rw [(takeWhile_snoc stops _).2] at closed
      obtain ⟨rfl, -⟩ := List.cons.inj closed
      exact isOpen before stops
  | other c rest noColon ih =>
    rw [List.cons_append, withPictures_of_ne noColon, withPictures_of_ne noColon, ih,
      List.cons_append]

private theorem plainShown_snoc (text : List Char) :
    plainShown (withoutBracketEscapes (text ++ ['\\'])) =
      plainShown (withoutBracketEscapes text) ++ ['\\'] := by
  rw [withoutBracketEscapes_snoc, plainShown, withPictures_snoc, List.filter_append]
  rfl

/-- The pieces of a text that is continued with a backslash. -/
def withBackslash : List Piece → List Piece
  | [] => [.plain ['\\']]
  | [.plain text] => [.plain (text ++ ['\\'])]
  | part :: rest => part :: withBackslash rest

private theorem push_withBackslash (c : Char) (parts : List Piece) :
    push c (withBackslash parts) = withBackslash (push c parts) := by
  rcases parts with _ | ⟨_ | _, _ | _⟩ <;> rfl

private theorem shown_withBackslash (parts : List Piece) :
    (withBackslash parts).flatMap Piece.shown = parts.flatMap Piece.shown ++ ['\\'] := by
  fun_induction withBackslash parts with
  | case1 => simp [Piece.shown, withoutBracketEscapes, plainShown, withPictures_of_ne, movesCursor]
  | case2 text => simp [Piece.shown, plainShown_snoc]
  | case3 part rest _ ih => rw [List.flatMap_cons, ih, List.flatMap_cons, List.append_assoc]

private theorem tag?_snoc {c : Char} {rest : List Char} (noTag : tag? (c :: rest) = none) :
    tag? (c :: (rest ++ ['\\'])) = none := by
  rw [Option.eq_none_iff_forall_ne_some]
  rintro ⟨n, body, after⟩ found
  obtain ⟨isBody, same⟩ := tag?_eq_some.mp found
  rcases List.eq_nil_or_concat after with rfl | ⟨before, last, rfl⟩
  · -- A tag ends in a bracket and the text in a backslash.
    have ends := congrArg List.getLast? same
    simp [Piece.source, tagText, List.getLast?_cons] at ends
  · rw [List.concat_eq_append, ← List.append_assoc, ← List.cons_append] at same
    have whole := (List.append_inj' same rfl).1
    rw [tag?_eq_some.mpr ⟨isBody, whole⟩] at noTag
    cases noTag

private theorem pieces_snoc (text : List Char) :
    pieces (text ++ ['\\']) = withBackslash (pieces text) := by
  induction text using pieces_induction with
  | nil =>
    rw [List.nil_append, pieces_of_not_mem (by decide) (by decide), pieces_nil, withBackslash]
  | tagged n body after isBody ih =>
    rw [List.append_assoc, pieces_of_tag (tag?_eq_some.mpr ⟨isBody, rfl⟩), ih,
      pieces_of_tag (tag?_eq_some.mpr ⟨isBody, rfl⟩)]
    cases after' : pieces after <;> rfl
  | other c rest noTag ih =>
    rw [List.cons_append, pieces_of_none (tag?_snoc noTag), ih, pieces_of_none noTag,
      push_withBackslash]

/-- What is shown of a piece after escaping. -/
def Piece.visible : Piece → List Char
  | plain text => plainShown (withoutBracketEscapes text)
  | tag backslashes body => List.replicate backslashes '\\' ++ plainShown (tagText body)

private theorem shown_escaped (part : Piece) : part.escaped.shown = part.visible := by
  cases part with
  | plain text => rfl
  | tag n body =>
    have half : (2 * n + 1) / 2 = n := by omega
    have odd : (2 * n + 1) % 2 = 1 := by omega
    rw [Piece.escaped, Piece.shown, half, if_pos odd, Piece.visible]

/-- What a terminal shows of any text that was escaped. -/
theorem shown_escape (text : List Char) :
    shown (escape text) = (pieces text).flatMap Piece.visible ++ extraBackslash text := by
  have tags : (pieces (escapeTags text)).flatMap Piece.shown =
      (pieces text).flatMap Piece.visible := by
    rw [pieces_escapeTags, List.flatMap_map]
    simp only [shown_escaped]
  rw [escape_eq, shown_eq, extraBackslash]
  split
  · rw [pieces_snoc, shown_withBackslash, tags]
  · rw [List.append_nil, List.append_nil, tags]

/-! ## Pictures -/

private theorem colon_not_mem_chars? {name picture : List Char}
    (found : Text.Emoji.chars? name = some picture) : ':' ∉ picture := by
  have pictures : (Text.Emoji.earlier ++ Text.Emoji.later ++ Text.Emoji.last).all
      (fun row => row.2.all fun codes => !codes.contains ':'.toNat) = true := by decide +kernel
  obtain ⟨codes, listed, rfl⟩ := Option.map_eq_some_iff.mp found
  obtain ⟨before, after, split, -⟩ := List.lookup_eq_some_iff.mp listed
  have member : (name, codes) ∈ Text.Emoji.entries := by simp [split]
  obtain ⟨row, inTable, inRow⟩ := List.mem_flatMap.mp member
  have noColon := List.all_eq_true.mp (List.all_eq_true.mp pictures row inTable) codes
    (List.of_mem_zip inRow).2
  intro colon
  obtain ⟨code, inCodes, same⟩ := List.mem_map.mp colon
  have isColon : code = ':'.toNat := by
    rw [Char.ofNat] at same
    split at same
    · exact congrArg Char.toNat same
    · cases same
  rw [isColon] at inCodes
  rw [List.contains_iff_mem.mpr inCodes] at noColon
  cases noColon

/-- A picture takes the place of its code and has no colon, so it takes two colons away. -/
theorem colon_not_mem_picture? {code picture : List Char} (found : picture? code = some picture) :
    ':' ∉ picture := by
  obtain ⟨chars, listed, rfl⟩ := Option.map_eq_some_iff.mp found
  have selector : ':' ∉ (Text.splitPresentation code).2 := by
    unfold Text.splitPresentation
    split
    · rename_i ending selector asked
      have member := List.mem_of_find?_eq_some asked
      simp only [Text.presentations, List.mem_cons, Prod.mk.injEq, List.not_mem_nil,
        or_false] at member
      obtain ⟨-, rfl⟩ | ⟨-, rfl⟩ := member
      · exact (by decide : ':' ∉ [Char.ofNat 0xfe0f])
      · exact (by decide : ':' ∉ [Char.ofNat 0xfe0e])
    · exact List.not_mem_nil
  rw [List.mem_append, not_or]
  exact ⟨colon_not_mem_chars? listed, selector⟩

/-- A text in which no code between colons names a picture; codes are found from left to right, and
one that names no picture is passed over with both its colons. -/
inductive PictureFree : List Char → Prop
  | nil : PictureFree []
  | code {rest after : List Char} (closed : rest.dropWhile inCode = ':' :: after)
      (unknown : picture? (rest.takeWhile inCode) = none) (free : PictureFree after) :
      PictureFree (':' :: rest)
  | colon {rest : List Char} (isOpen : ∀ after, rest.dropWhile inCode ≠ ':' :: after)
      (free : PictureFree rest) : PictureFree (':' :: rest)
  | other {c : Char} {rest : List Char} (noColon : c ≠ ':') (free : PictureFree rest) :
      PictureFree (c :: rest)

private theorem withPictures_of_pictureFree {text : List Char} (free : PictureFree text) :
    withPictures text = text := by
  induction free with
  | nil => exact withPictures_nil
  | @code rest after closed unknown _ ih =>
    rw [withPictures_colon_code closed, unknown, ih, Option.getD_none, List.append_assoc,
      List.cons_append, List.singleton_append, ← closed, List.takeWhile_append_dropWhile]
  | colon isOpen _ ih => rw [withPictures_colon_open isOpen, ih]
  | other noColon _ ih => rw [withPictures_of_ne noColon, ih]

/-- The colons in a code and in what follows it. -/
theorem count_colon_code {rest after : List Char} (closed : rest.dropWhile inCode = ':' :: after) :
    (':' :: rest).count ':' = after.count ':' + 2 := by
  have cut : rest = rest.takeWhile inCode ++ ':' :: after := by
    rw [← closed, List.takeWhile_append_dropWhile]
  have inside : (rest.takeWhile inCode).count ':' = 0 := by
    rw [List.count_eq_zero]
    intro colon
    exact absurd (List.mem_takeWhile_imp colon) (by decide)
  rw [cut, List.count_cons_self, List.count_append, List.count_cons_self, inside, Nat.zero_add]

/-- Putting in pictures adds no colon, and takes none away only where there was no picture to put
in. -/
theorem count_withPictures (text : List Char) :
    (withPictures text).count ':' ≤ text.count ':' ∧
      (text.count ':' ≤ (withPictures text).count ':' → PictureFree text) := by
  induction text using codes_induction with
  | nil => exact ⟨by simp, fun _ => .nil⟩
  | code rest after closed ih =>
    obtain ⟨fewer, free⟩ := ih
    have colons := count_colon_code closed
    rw [withPictures_colon_code closed, List.count_append]
    cases known : picture? (rest.takeWhile inCode) with
    | none =>
      have kept : (':' :: rest.takeWhile inCode ++ [':']).count ':' = 2 := by
        have alone : (rest.takeWhile inCode ++ [':']).dropWhile inCode = [':'] := by
          rw [List.dropWhile_append_of_pos fun _ => List.mem_takeWhile_imp]
          rfl
        exact count_colon_code alone
      rw [Option.getD_none, kept]
      exact ⟨by omega, fun all => .code closed known (free (by omega))⟩
    | some picture =>
      have gone := List.count_eq_zero.mpr (colon_not_mem_picture? known)
      rw [Option.getD_some, gone]
      exact ⟨by omega, fun all => by omega⟩
  | colon rest isOpen ih =>
    rw [withPictures_colon_open isOpen, List.count_cons_self, List.count_cons_self]
    exact ⟨by omega, fun all => .colon isOpen (ih.2 (by omega))⟩
  | other c rest noColon ih =>
    rw [withPictures_of_ne noColon, List.count_cons_of_ne noColon, List.count_cons_of_ne noColon]
    exact ⟨ih.1, fun all => .other noColon (ih.2 all)⟩

/-! ## Nothing lost, doubled or replaced -/

private theorem withoutBracketEscapes_sublist (text : List Char) :
    (withoutBracketEscapes text).Sublist text := by
  fun_induction withoutBracketEscapes text with
  | case1 rest ih => exact (ih.cons_cons '[').cons '\\'
  | case2 c rest other ih => exact ih.cons_cons c
  | case3 => exact .slnil

private theorem count_withoutBracketEscapes (text : List Char) :
    (withoutBracketEscapes text).count ':' = text.count ':' := by
  fun_induction withoutBracketEscapes text with
  | case1 rest ih => simpa using ih
  | case2 c rest other ih => rw [List.count_cons, List.count_cons, ih]
  | case3 => rfl

/-- No backslash is dropped exactly where none stands before an opening bracket. -/
theorem withoutBracketEscapes_eq_self_iff (text : List Char) :
    withoutBracketEscapes text = text ↔ ¬ ['\\', '['] <:+: text := by
  fun_induction withoutBracketEscapes text with
  | case1 rest ih =>
    have found : ['\\', '['] <:+: '\\' :: '[' :: rest := ⟨[], rest, rfl⟩
    simp [found]
  | case2 c rest other ih =>
    have notHere : ¬ ['\\', '['] <+: c :: rest := by
      rintro ⟨after, same⟩
      obtain ⟨rfl, rfl⟩ := List.cons.inj same
      exact other after rfl rfl
    rw [List.cons_inj_right, ih, List.infix_cons_iff, or_iff_right notHere]
  | case3 => simp

/-- A piece of which every character is shown as it stands in the text. -/
def Piece.Verbatim : Piece → Prop
  | plain text => PictureFree text ∧ (∀ c ∈ text, movesCursor c = false) ∧ ¬ ['\\', '['] <:+: text
  | tag _ body => PictureFree (tagText body) ∧ ∀ c ∈ body, movesCursor c = false

private theorem count_filter_shown (text : List Char) :
    (text.filter fun c => !movesCursor c).count ':' = text.count ':' :=
  List.count_filter (by decide)

private theorem count_plainShown (text : List Char) :
    (plainShown text).count ':' ≤ text.count ':' ∧
      (text.count ':' ≤ (plainShown text).count ':' → PictureFree text) := by
  rw [plainShown, count_filter_shown]
  exact count_withPictures text

private theorem plainShown_sublist {text : List Char} (free : PictureFree text) :
    (plainShown text).Sublist text := by
  rw [plainShown, withPictures_of_pictureFree free]
  exact List.filter_sublist

private theorem plainShown_eq_self_iff {text : List Char} (free : PictureFree text) :
    plainShown text = text ↔ ∀ c ∈ text, movesCursor c = false := by
  rw [plainShown, withPictures_of_pictureFree free, List.filter_eq_self]
  simp only [Bool.not_eq_eq_eq_not, Bool.not_true]

/-- The part of a piece that is searched for codes of pictures. -/
def Piece.searched : Piece → List Char
  | plain text => withoutBracketEscapes text
  | tag _ body => tagText body

private theorem count_visible (part : Piece) : part.visible.count ':' ≤ part.source.count ':' ∧
    (part.source.count ':' ≤ part.visible.count ':' → PictureFree part.searched) := by
  cases part with
  | plain text =>
    have counted := count_plainShown (withoutBracketEscapes text)
    rwa [count_withoutBracketEscapes] at counted
  | tag n body =>
    rw [Piece.visible, Piece.source, List.count_append, List.count_append]
    have counted := count_plainShown (tagText body)
    exact ⟨by omega, fun all => counted.2 (by omega)⟩

private theorem visible_sublist {part : Piece} (free : PictureFree part.searched) :
    part.visible.Sublist part.source := by
  cases part with
  | plain text => exact (plainShown_sublist free).trans (withoutBracketEscapes_sublist text)
  | tag n body => exact (plainShown_sublist free).append_left _

private theorem visible_eq_source_iff (part : Piece) :
    part.visible = part.source ↔ part.Verbatim := by
  constructor
  · intro same
    have free := (count_visible part).2 (by rw [same])
    cases part with
    | plain text =>
      -- Both steps only drop characters, so none is dropped in either.
      have inner := withoutBracketEscapes_sublist text
      have outer := plainShown_sublist free
      change plainShown (withoutBracketEscapes text) = text at same
      change PictureFree (withoutBracketEscapes text) at free
      have whole : withoutBracketEscapes text = text :=
        inner.eq_of_length_le ((congrArg List.length same).ge.trans outer.length_le)
      rw [whole] at same free
      exact ⟨free, (plainShown_eq_self_iff free).mp same,
        (withoutBracketEscapes_eq_self_iff text).mp whole⟩
    | tag n body =>
      have kept := (plainShown_eq_self_iff free).mp (List.append_cancel_left same)
      refine ⟨free, fun c member => kept c ?_⟩
      exact List.mem_append_left _ (List.mem_cons_of_mem _ member)
  · intro verbatim
    cases part with
    | plain text =>
      obtain ⟨free, visible, unescaped⟩ := verbatim
      rw [Piece.visible, (withoutBracketEscapes_eq_self_iff text).mpr unescaped]
      exact (plainShown_eq_self_iff free).mpr visible
    | tag n body =>
      obtain ⟨free, visible⟩ := verbatim
      have kept : ∀ c ∈ tagText body, movesCursor c = false := by
        intro c member
        simp only [tagText, List.cons_append, List.mem_cons, List.mem_append, List.not_mem_nil,
          or_false] at member
        obtain rfl | member | rfl := member
        · rfl
        · exact visible c member
        · rfl
      rw [Piece.visible, (plainShown_eq_self_iff free).mpr kept]
      rfl

/-- Sums whose terms are ordered are equal only term by term. -/
theorem eq_of_sum_le {α : Type} {small large : α → Nat} {items : List α}
    (le : ∀ item ∈ items, small item ≤ large item)
    (same : (items.map large).sum ≤ (items.map small).sum) :
    ∀ item ∈ items, small item = large item := by
  induction items with
  | nil => simp
  | cons item items ih =>
    rw [List.forall_mem_cons] at le ⊢
    have rest := List.sum_le_sum le.2
    simp only [List.map_cons, List.sum_cons] at same
    exact ⟨by omega, ih le.2 (by omega)⟩

/-- Pieces that make up their text also when they are shown are shown as they are. -/
theorem visible_eq_source_of_flatMap {parts : List Piece}
    (same : parts.flatMap Piece.visible = parts.flatMap Piece.source) :
    ∀ part ∈ parts, part.visible = part.source := by
  have colons := congrArg (List.count ':') same
  rw [List.count_flatMap, List.count_flatMap] at colons
  have counted := eq_of_sum_le (fun part _ => (count_visible part).1) colons.ge
  have free (part : Piece) (member : part ∈ parts) : PictureFree part.searched :=
    (count_visible part).2 (counted part member).ge
  have lengths := congrArg List.length same
  rw [List.length_flatMap, List.length_flatMap] at lengths
  intro part member
  exact (visible_sublist (free part member)).eq_of_length
    (eq_of_sum_le (fun part member => (visible_sublist (free part member)).length_le)
      lengths.ge part member)

/-- The backslash added at the end is shown, and so is the one that was there. -/
theorem shown_escape_ne {text : List Char} (ends : endsInBackslash text = true) :
    shown (escape text) ≠ text := by
  intro same
  obtain ⟨before, finish⟩ : ∃ before, escapeTags text = before ++ ['\\'] := by
    rw [endsInBackslash, beq_iff_eq] at ends
    have one : (trail (escapeTags text)).length = 1 := by rw [trail_escapeTags, trail, ends]
    cases backwards : (escapeTags text).reverse with
    | nil => simp [trail, backwards] at one
    | cons c before =>
      have backslash : c = '\\' := by
        by_contra other
        simp [trail, backwards, isBackslash, other] at one
      exact ⟨before.reverse, by rw [← backslash, ← List.reverse_cons, ← backwards,
        List.reverse_reverse]⟩
  rw [escape_eq, extraBackslash, if_pos ends, finish, shown_eq, pieces_snoc, shown_withBackslash,
    pieces_snoc, shown_withBackslash] at same
  rw [← same] at ends
  simp [endsInBackslash, isBackslash] at ends

/-- A text of which all pieces are shown as they stand, and to which no backslash is added. -/
def Verbatim (text : List Char) : Prop :=
  (∀ part ∈ pieces text, part.Verbatim) ∧ endsInBackslash text = false

/-- An escaped text is shown as it was exactly if it is verbatim. -/
theorem shown_escape_eq_iff (text : List Char) : shown (escape text) = text ↔ Verbatim text := by
  constructor
  · intro same
    have ends : endsInBackslash text = false :=
      Bool.eq_false_iff.mpr fun ends => shown_escape_ne ends same
    rw [shown_escape, extraBackslash, ends] at same
    have parts : (pieces text).flatMap Piece.visible = (pieces text).flatMap Piece.source := by
      rw [flatMap_source_pieces]
      simpa using same
    exact ⟨fun part member => (visible_eq_source_iff part).mp
      (visible_eq_source_of_flatMap parts part member), ends⟩
  · rintro ⟨verbatim, ends⟩
    have parts : (pieces text).flatMap Piece.visible = (pieces text).flatMap Piece.source :=
      List.flatMap_congr fun part member => (visible_eq_source_iff part).mpr (verbatim part member)
    rw [shown_escape, extraBackslash, ends, parts, flatMap_source_pieces]
    simp

end Markup

/-! ## The table of matches -/

/-- The cell of a row under a heading. -/
def Table.cell? (table : Table) (heading : String) (cells : List (List Char)) :
    Option (List Char) :=
  ((table.columns.map Column.heading).zip cells).lookup heading.toList

/-- A table of matches has a row for each match that is shown. It shows the signature, and the
arguments where they are asked for, as they are exactly if these texts are verbatim. -/
theorem table_shows_texts_iff (config : Config) (found : List Match) :
    List.Forall₂ (fun match_ cells =>
      (∃ cell, (table config found).cell? "Signature" cells = some cell ∧
        (Markup.shown cell = match_.signature.toList ↔
          Markup.Verbatim match_.signature.toList)) ∧
      if config.showBindings then
        ∃ cell, (table config found).cell? "Arguments" cells = some cell ∧
          (Markup.shown cell = match_.bindingsText.toList ↔
            Markup.Verbatim match_.bindingsText.toList)
      else (table config found).cell? "Arguments" cells = none)
      (config.limit found) (table config found).rows := by
  rw [table, List.forall₂_map_right_iff, List.forall₂_same]
  intro match_ _
  have signature := Markup.shown_escape_eq_iff match_.signature.toList
  cases shows : config.showBindings with
  | false => exact ⟨⟨_, rfl, signature⟩, rfl⟩
  | true => exact ⟨⟨_, rfl, signature⟩, _, rfl, Markup.shown_escape_eq_iff _⟩

/-- A backslash before a bracket that opens no tag is lost: the text of the argument has two
backslashes, and one of them is shown. -/
theorem bracket_after_backslashes_not_verbatim :
    (do
      let (_, found) ← (findCalls "f('\\\\[')" "f(a)" "<string>" none).toOption
      let table := table ⟨true, none, 80, by decide⟩ found
      let cells ← table.rows.mapM fun cells => table.cell? "Arguments" cells
      return (found.map Match.bindingsText,
        cells.map fun cell => String.ofList (Markup.shown cell))) =
      some (["a='\\\\['"], ["a='\\['"]) := by
  decide +kernel

end CallSites.Report
