import CallSites.Text.CharacterName.Beyond
import CallSites.Text.CharacterName.Further
import CallSites.Text.CharacterName.Letters
import CallSites.Text.CharacterName.Symbols

/-! # Names of characters

`code?` finds the character with a given name. Most names stand in tables; those of syllables and
of ideographs follow rules. Small letters count as capitals, except in names that follow the rules
for syllables and unified ideographs.
-/

namespace CallSites.Text.CharacterName

/-- What is being read of a table: a number that starts a run, a shared length, or a name. -/
inductive Part where
  | run | share | name
deriving DecidableEq, Repr

/-- Where the reading of a table stands, with the wanted name in view. -/
structure Search where
  part : Part
  /-- The number or the shared length that is being read. -/
  count : Nat
  /-- The code point of the name that is being read. -/
  code : Nat
  /-- How many characters of that name have been read. -/
  length : Nat
  /-- How many of them, from the first on, agree with the wanted name. -/
  agreed : Nat
  /-- The code point of the wanted name, once it has been found. -/
  found : Option Nat

namespace Search

/-- Before the first character of a table. -/
def start : Search := ⟨.run, 0, 0, 0, 0, none⟩

/-- The end of a name: it is the wanted one if all of both agrees. -/
def close (wanted : Array Char) (search : Search) : Search :=
  if search.part = .name ∧ search.agreed = search.length ∧ search.length = wanted.size ∧
      search.found.isNone then
    { search with found := some search.code }
  else search

/-- Reads a character of a name. -/
def extend (wanted : Array Char) (c : Char) (search : Search) : Search :=
  let agreed := if search.agreed = search.length ∧ wanted[search.length]? = some c then
    search.agreed + 1 else search.agreed
  { search with length := search.length + 1, agreed }

/-- Reads a character of a table. -/
def step (wanted : Array Char) (search : Search) (c : Char) : Search :=
  if c = '@' then { search.close wanted with part := .run, count := 0 }
  else if c.isLower then
    let digit := c.toNat - 'a'.toNat
    match search.part with
    | .share => { search with count := 26 * search.count + digit }
    | .run => { search with part := .share, code := search.count, count := digit }
    | .name => { search.close wanted with part := .share, code := search.code + 1, count := digit }
  else match search.part with
    | .run => { search with count := 10 * search.count + (c.toNat - '0'.toNat) }
    | .share =>
      extend wanted c { search with
        part := .name, length := search.count, agreed := min search.agreed search.count }
    | .name => extend wanted c search

end Search

/-- The character with a name, if it stands in a table. -/
def codeIn? (table : List String) (wanted : Array Char) : Option Nat :=
  let search := table.foldl (fun search line => line.foldl (Search.step wanted) search) .start
  (search.close wanted).found

/-- The consonants that start a syllable. -/
def leading : List String :=
  ["G", "GG", "N", "D", "DD", "R", "M", "B", "BB", "S", "SS", "", "J", "JJ", "C", "K", "T", "P",
   "H"]

/-- The vowels of a syllable. -/
def vowels : List String :=
  ["A", "AE", "YA", "YAE", "EO", "E", "YEO", "YE", "O", "WA", "WAE", "OE", "YO", "U", "WEO",
   "WE", "WI", "YU", "EU", "YI", "I"]

/-- The consonants that end a syllable. -/
def trailing : List String :=
  ["", "G", "GG", "GS", "N", "NJ", "NH", "D", "L", "LG", "LM", "LB", "LS", "LT", "LP", "LH", "M",
   "B", "BS", "S", "SS", "NG", "J", "C", "K", "T", "P", "H"]

/-- The longest text of a list with which the characters start: its index, and the rest. -/
def longest? (texts : List String) (chars : List Char) : Option (Nat × List Char) :=
  let fitting := texts.zipIdx.filter fun (text, _) => text.toList.isPrefixOf chars
  (fitting.foldl (fun best (text, index) =>
    match best with
    | some (length, _) => if length < text.length then some (text.length, index) else best
    | none => some (text.length, index)) none).map fun (length, index) => (index, chars.drop length)

/-- The syllable with the given letters. -/
def syllable? (chars : List Char) : Option Nat := do
  let (first, chars) ← longest? leading chars
  let (second, chars) ← longest? vowels chars
  let (third, chars) ← longest? trailing chars
  if chars.isEmpty then some (0xac00 + (first * 21 + second) * 28 + third) else none

/-- The number that digits in base sixteen stand for, where letters are capitals. -/
def hexValue? (chars : List Char) : Option Nat :=
  chars.foldlM (fun n c =>
    if c.isDigit then some (16 * n + (c.toNat - '0'.toNat))
    else if 'A' ≤ c && c ≤ 'F' then some (16 * n + (c.toNat - 'A'.toNat + 10))
    else none) 0

/-- The unified ideographs. -/
def ideographs : List (Nat × Nat) :=
  [(0x3400, 0x4dbf), (0x4e00, 0x9fff), (0x20000, 0x2a6df), (0x2a700, 0x2b738), (0x2b740, 0x2b81d),
   (0x2b820, 0x2cea1), (0x2ceb0, 0x2ebe0), (0x30000, 0x3134a)]

/-- Rows of characters whose names end in their code point. -/
def numbered : List (String × List (Nat × Nat)) :=
  [("CJK COMPATIBILITY IDEOGRAPH-", [(0xf900, 0xfa6d), (0xfa70, 0xfad9), (0x2f800, 0x2fa1d)]),
   ("KHITAN SMALL SCRIPT CHARACTER-", [(0x18b00, 0x18cd5)]),
   ("NUSHU CHARACTER-", [(0x1b170, 0x1b2fb)])]

/-- What follows the first text at the front of the characters. -/
def after? (text : String) (chars : List Char) : Option (List Char) :=
  if text.toList.isPrefixOf chars then some (chars.drop text.length) else none

/-- A code point in base sixteen, with four or five digits, out of some ranges. -/
def codeFrom? (ranges : List (Nat × Nat)) (digits : List Char) : Option Nat := do
  let n ← hexValue? digits
  if (digits.length = 4 ∨ digits.length = 5) ∧
      ranges.any (fun (first, last) => first ≤ n && n ≤ last) then some n else none

/-- The variation selector with a number. -/
def selector? (name : List Char) : Option Nat := do
  let digits ← after? "VS" name
  let number ← (String.ofList digits).toNat?
  if number = 0 ∨ 256 < number ∨ toString number ≠ String.ofList digits then none
  else some (if number ≤ 16 then 0xfe00 + number - 1 else 0xe0100 + number - 17)

/-- The character with a name in capitals that follows no rule for syllables or unified
ideographs. -/
def listed? (name : List Char) : Option Nat :=
  let wanted := name.toArray
  let byNumber := numbered.findSome? fun (text, ranges) =>
    ((after? text name).filter fun digits => digits.head? != some '0').bind (codeFrom? ranges)
  (further.lookup (String.ofList name)).or ((selector? name).or (byNumber.or
    ((codeIn? letters wanted).or ((codeIn? symbols wanted).or (codeIn? beyond wanted)))))

/-- The code point of the character with a name. -/
def code? (name : List Char) : Option Nat :=
  match after? "HANGUL SYLLABLE " name, after? "CJK UNIFIED IDEOGRAPH-" name with
  | some letters, _ => syllable? letters
  | none, some digits => codeFrom? ideographs digits
  | none, none => listed? (name.map Char.toUpper)

end CallSites.Text.CharacterName
