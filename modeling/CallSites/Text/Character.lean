/-! # Sets of characters

Sets of characters are given by tables of ranges or by tests on code points. Text is stripped of
blank characters at both ends: the ASCII blanks with the four separators of information, and the
blank characters beyond ASCII. Surrogates are code points, but no characters; a text that is given
may hold them all the same.
-/

namespace CallSites.Text

/-- Whether a character lies in one of the ranges of code points, both ends included. -/
def inRanges (ranges : List (Nat × Nat)) (c : Char) : Bool :=
  ranges.any fun (first, last) => decide (first ≤ c.toNat) && decide (c.toNat ≤ last)

/-- Whether a character is blank. -/
def isBlank (c : Char) : Bool :=
  let n := c.toNat
  (9 ≤ n && n ≤ 13) || (28 ≤ n && n ≤ 32) || n == 0x85 || n == 0xa0 || n == 0x1680 ||
    (0x2000 ≤ n && n ≤ 0x200a) || n == 0x2028 || n == 0x2029 || n == 0x202f || n == 0x205f ||
    n == 0x3000

/-- The text without the blank characters at its end. -/
def stripEnd (text : List Char) : List Char := (text.reverse.dropWhile isBlank).reverse

/-- The text without the blank characters at its ends. -/
def strip (text : List Char) : List Char := stripEnd (text.dropWhile isBlank)

/-- Whether a code point is a surrogate. -/
def isSurrogate (code : Nat) : Bool := decide (0xd800 ≤ code) && decide (code ≤ 0xdfff)

/-- A text in which some surrogate belongs to no pair, so that it is no sequence of characters. It
is given by its code points. -/
structure SurrogateText where
  codes : List Nat
  lone : codes.any isSurrogate = true
deriving DecidableEq, Repr

/-- A text as it may be given: a sequence of characters, or one with lone surrogates. -/
inductive GivenText where
  | chars (text : String)
  | surrogates (text : SurrogateText)
deriving DecidableEq, Repr

namespace GivenText

instance : Coe String GivenText := ⟨chars⟩

/-- The code points of a text. -/
def codes : GivenText → List Nat
  | chars text => text.toList.map Char.toNat
  | surrogates text => text.codes

/-- The text with some code points. -/
def ofCodes (codes : List Nat) : GivenText :=
  if lone : codes.any isSurrogate = true then surrogates ⟨codes, lone⟩
  else chars (String.ofList (codes.map Char.ofNat))

instance : Append GivenText := ⟨fun first second => ofCodes (first.codes ++ second.codes)⟩

def isEmpty (text : GivenText) : Bool := text.codes.isEmpty

/-- Whether a text holds the null character. -/
def holdsNull (text : GivenText) : Bool := text.codes.contains 0

@[simp]
theorem isEmpty_chars (text : String) : (chars text).isEmpty = text.isEmpty := by
  rw [Bool.eq_iff_iff, String.isEmpty_iff, isEmpty, codes, List.isEmpty_iff, List.map_eq_nil_iff,
    String.toList_eq_nil_iff]

@[simp]
theorem isEmpty_ofCodes (codes : List Nat) : (ofCodes codes).isEmpty = codes.isEmpty := by
  unfold ofCodes
  split
  · rfl
  · rw [isEmpty, GivenText.codes, String.toList_ofList, List.isEmpty_map, List.isEmpty_map]

@[simp]
theorem isEmpty_append (first second : GivenText) :
    (first ++ second).isEmpty = (first.isEmpty && second.isEmpty) := by
  change (ofCodes (first.codes ++ second.codes)).isEmpty = _
  rw [isEmpty_ofCodes, isEmpty, isEmpty]
  cases first.codes <;> rfl

end GivenText

end CallSites.Text
