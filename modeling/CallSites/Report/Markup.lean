import CallSites.Text.Character
import CallSites.Text.Emoji

/-! # Markup in terminal texts

A tag such as `[bold]` in a terminal text sets a style and is not shown. Backslashes before a tag
are halved, and an odd one makes the tag plain text. `escape` prepares a text so that its tags are
shown, and `shown` is what a terminal shows of a text.
-/

namespace CallSites.Report.Markup

/-- A part of a text: plain characters, or a tag with the number of backslashes before it. -/
inductive Piece where
  | plain (text : List Char)
  | tag (backslashes : Nat) (body : List Char)
deriving DecidableEq, Repr

/-- Whether a character can be the first of a tag. -/
def opensTag (c : Char) : Bool := c.isLower || c == '#' || c == '/' || c == '@'

/-- Whether a tag goes on with a character. -/
def inTag (c : Char) : Bool := c != '[' && c != ']'

def isBackslash (c : Char) : Bool := c == '\\'

/-- The tag at the start of a text with the backslashes before it, and the text after it. -/
def tag? (text : List Char) : Option (Nat × List Char × List Char) :=
  match text.dropWhile isBackslash with
  | '[' :: first :: rest =>
    if opensTag first then
      match rest.dropWhile inTag with
      | ']' :: after =>
        some ((text.takeWhile isBackslash).length, first :: rest.takeWhile inTag, after)
      | _ => none
    else none
  | _ => none

theorem length_dropWhile_le {α : Type} (p : α → Bool) (items : List α) :
    (items.dropWhile p).length ≤ items.length :=
  (List.dropWhile_suffix p).length_le

/-- What follows a tag is shorter than what starts with it. -/
theorem length_lt_of_tag? {text body after : List Char} {n : Nat}
    (found : tag? text = some (n, body, after)) : after.length < text.length := by
  unfold tag? at found
  split at found
  · rename_i first rest start
    split at found
    · split at found
      · rename_i last finish
        have outer := length_dropWhile_le isBackslash text
        have inner := length_dropWhile_le inTag rest
        simp only [Option.some.injEq, Prod.mk.injEq] at found
        rw [start] at outer
        rw [finish, found.2.2] at inner
        simp only [List.length_cons] at outer inner
        omega
      · simp at found
    · simp at found
  · simp at found

/-- Puts a plain character before some pieces. -/
def push (c : Char) : List Piece → List Piece
  | .plain text :: rest => .plain (c :: text) :: rest
  | pieces => .plain [c] :: pieces

/-- Cuts a text at its tags. -/
def pieces : List Char → List Piece
  | [] => []
  | c :: rest =>
    match _found : tag? (c :: rest) with
    | some (backslashes, body, after) => .tag backslashes body :: pieces after
    | none => push c (pieces rest)
termination_by text => text.length
decreasing_by
  · exact length_lt_of_tag? _found
  · simp

/-- The text of a tag. -/
def tagText (body : List Char) : List Char := '[' :: body ++ [']']

/-- A piece with its tag made plain text. -/
def Piece.escape : Piece → List Char
  | plain text => text
  | tag backslashes body => List.replicate (2 * backslashes + 1) '\\' ++ tagText body

/-- Whether a text ends with exactly one backslash. -/
def endsInBackslash (text : List Char) : Bool :=
  (text.reverse.takeWhile isBackslash).length == 1

/-- Prepares a text so that its tags are shown. A single backslash at the end is doubled. -/
def escape (text : List Char) : List Char :=
  let escaped := (pieces text).flatMap Piece.escape
  if endsInBackslash escaped then escaped ++ ['\\'] else escaped

/-- Whether a character belongs to the name of a picture. -/
def inCode (c : Char) : Bool := c != ':' && !Text.isBlank c

/-- Replaces the codes of pictures between colons by the pictures. -/
def withPictures : List Char → List Char
  | [] => []
  | c :: rest =>
    if c = ':' then
      match _found : rest.dropWhile inCode with
      | ':' :: after =>
        let code := rest.takeWhile inCode
        (Text.picture? code).getD (':' :: code ++ [':']) ++ withPictures after
      | _ => c :: withPictures rest
    else c :: withPictures rest
termination_by text => text.length
decreasing_by
  · have inner := length_dropWhile_le inCode rest
    rw [_found] at inner
    simp only [List.length_cons] at inner ⊢
    omega
  all_goals simp

/-- Drops the backslash before each opening bracket. -/
def withoutBracketEscapes : List Char → List Char
  | '\\' :: '[' :: rest => '[' :: withoutBracketEscapes rest
  | c :: rest => c :: withoutBracketEscapes rest
  | [] => []

/-- Characters that move the cursor: bell, backspace, vertical tab, form feed and return. -/
def movesCursor (c : Char) : Bool := c.toNat ∈ [7, 8, 11, 12, 13]

/-- What is shown of plain text: pictures for their codes, and nothing that moves the cursor. -/
def plainShown (text : List Char) : List Char :=
  (withPictures text).filter fun c => !movesCursor c

/-- What is shown of a piece. -/
def Piece.shown : Piece → List Char
  | plain text => plainShown (withoutBracketEscapes text)
  | tag backslashes body =>
    List.replicate (backslashes / 2) '\\' ++
      if backslashes % 2 = 1 then plainShown (tagText body) else []

/-- What a terminal shows of a text. Only a text with an opening bracket is searched for tags. -/
def shown (text : List Char) : List Char :=
  if '[' ∈ text then (pieces text).flatMap Piece.shown else plainShown text

end CallSites.Report.Markup
