import CallSites.Text.Emoji.Earlier
import CallSites.Text.Emoji.Last
import CallSites.Text.Emoji.Later

/-! # Emoji codes

A terminal text may name a picture between two colons, most of them with the name they have in chat
programs.
-/

namespace CallSites.Text

namespace Emoji

/-- The names of a row of the tables, which stand with a blank between them. -/
def names : List Char → List (List Char)
  | [] => [[]]
  | c :: rest =>
    if c = ' ' then [] :: names rest
    else match names rest with
      | [] => [[c]]
      | first :: others => (c :: first) :: others

/-- All names with the code points they stand for. -/
def entries : List (List Char × List Nat) :=
  (earlier ++ later ++ last).flatMap fun row => (names row.1.toList).zip row.2

/-- The characters that a name stands for. -/
def chars? (name : List Char) : Option (List Char) :=
  (entries.lookup name).map fun codes => codes.map Char.ofNat

end Emoji

/-- The end of a code that asks for one of the two presentations, and the character for it. -/
def presentations : List (List Char × Nat) :=
  [("-emoji".toList, 0xfe0f), ("-text".toList, 0xfe0e)]

/-- The name without a presentation at its end, and the character that selects it. -/
def splitPresentation (name : List Char) : List Char × List Char :=
  match presentations.find? fun (ending, _) => ending.isSuffixOf name with
  | some (ending, selector) => (name.take (name.length - ending.length), [Char.ofNat selector])
  | none => (name, [])

/-- The small letters for capitals beyond ASCII: those that occur in names of pictures, and two
signs for units that look like capitals. -/
def wideLetters : List (Char × Char) :=
  [('Ã', 'ã'), ('Å', 'å'), ('Ç', 'ç'), ('É', 'é'), ('Í', 'í'), ('Ô', 'ô'), ('\u212a', 'k'),
   ('\u212b', 'å')]

/-- The small letter for a capital. Other characters stay as they are. -/
def lowered (c : Char) : Char := (wideLetters.lookup c).getD c.toLower

/-- The picture that a code stands for. Case does not matter in its name. -/
def picture? (code : List Char) : Option (List Char) :=
  let (name, selector) := splitPresentation code
  (Emoji.chars? (name.map lowered)).map (· ++ selector)

end CallSites.Text
