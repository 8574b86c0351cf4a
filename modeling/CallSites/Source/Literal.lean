import CallSites.Number.Decimal
import CallSites.Text.CharacterName

/-! # Literals

The values that literals denote, and how the digits of a number and the escapes of a string are
read. Every reader works on characters and returns what is left of them.
-/

namespace CallSites.Source

/-- The value of a literal. A text is given by its code points; it is marked when its first part was
written with the prefix `u`. -/
inductive Literal where
  | none
  | bool (b : Bool)
  | ellipsis
  | int (n : Nat)
  | float (x : Double)
  | imaginary (x : Double)
  | text (codes : List Nat) (marked : Bool)
  | bytes (data : List UInt8)
deriving DecidableEq, Repr, Inhabited

/-- Whether a character is a digit in base sixteen. -/
def isHexDigit (c : Char) : Bool :=
  c.isDigit || ('a' ≤ c && c ≤ 'f') || ('A' ≤ c && c ≤ 'F')

def isOctalDigit (c : Char) : Bool := '0' ≤ c && c ≤ '7'

def isBinaryDigit (c : Char) : Bool := c == '0' || c == '1'

/-- The value of a digit in a base up to sixteen. -/
def digitValue (c : Char) : Nat :=
  if c.isDigit then c.toNat - '0'.toNat
  else if 'a' ≤ c then c.toNat - 'a'.toNat + 10
  else c.toNat - 'A'.toNat + 10

/-- The value of a row of digits. -/
def valueIn (base : Nat) (digits : List Char) : Nat :=
  digits.foldl (fun n c => base * n + digitValue c) 0

namespace Number

/-- The digits at the front, where single underscores may stand before digits, and the rest. An
underscore without a digit after it is a mistake. -/
def digits? (isDigit : Char → Bool) : List Char → Option (List Char × List Char)
  | [] => some ([], [])
  | c :: rest =>
    if isDigit c then (digits? isDigit rest).map fun (found, rest) => (c :: found, rest)
    else if c = '_' then
      match rest with
      | d :: _ => if isDigit d then digits? isDigit rest else none
      | [] => none
    else some ([], c :: rest)

/-- The words that may stand directly after a number. -/
def followers : List (List Char) :=
  ["and", "else", "for", "if", "in", "is", "not", "or"].map String.toList

/-- Whether a number may end before the given characters: no letter, digit, underscore or character
beyond ASCII may follow, except at the start of one of the words that may stand after a number. -/
def mayEnd (rest : List Char) : Bool :=
  match rest with
  | [] => true
  | c :: _ =>
    followers.any (fun word => word.isPrefixOf rest) ||
      !(c.isAlphanum || c == '_' || decide (128 ≤ c.toNat))

/-- A literal if the number may end where it does. -/
def ending (literal : Literal) (rest : List Char) : Option (Literal × List Char) :=
  if mayEnd rest then some (literal, rest) else none

/-- A number in a base with its own prefix. -/
def inBase (base : Nat) (isDigit : Char → Bool) (rest : List Char) :
    Option (Literal × List Char) := do
  let (found, rest) ← digits? isDigit rest
  if found.isEmpty || (rest.head?.any Char.isDigit) then none
  else ending (.int (valueIn base found)) rest

/-- The exponent at the front, if the characters start with one. -/
def exponent? : List Char → Option (Option Int × List Char)
  | e :: rest =>
    if e = 'e' ∨ e = 'E' then
      match rest with
      | sign :: d :: more =>
        if (sign = '+' ∨ sign = '-') then
          if d.isDigit then do
            let (found, rest) ← digits? Char.isDigit (d :: more)
            let size : Int := valueIn 10 found
            some (some (if sign = '-' then -size else size), rest)
          else none
        else if sign.isDigit then do
          let (found, rest) ← digits? Char.isDigit rest
          some (some (valueIn 10 found : Int), rest)
        else some (none, e :: rest)
      | [d] =>
        if d.isDigit then some (some (digitValue d : Int), [])
        else if d = '+' ∨ d = '-' then none
        else some (none, e :: rest)
      | [] => some (none, [e])
    else some (none, e :: rest)
  | [] => some (none, [])

/-- The end of a number with a fraction or an exponent: it may be imaginary. -/
def finishFloat (x : Double) : List Char → Option (Literal × List Char)
  | c :: rest =>
    if c = 'j' ∨ c = 'J' then ending (.imaginary x) rest else ending (.float x) (c :: rest)
  | [] => some (.float x, [])

/-- What follows the point of a number. -/
def afterPoint (whole rest : List Char) : Option (Literal × List Char) := do
  let (fraction, rest) ← if rest.head?.any Char.isDigit then digits? Char.isDigit rest
    else some ([], rest)
  let (exponent, rest) ← exponent? rest
  finishFloat (Double.ofParts false whole fraction (exponent.getD 0)) rest

/-- A number in base ten from its first digit on. A whole number with a leading zero must be
zero. -/
def decimal? (chars : List Char) : Option (Literal × List Char) := do
  let (whole, rest) ← digits? Char.isDigit chars
  match rest with
  | '.' :: rest => afterPoint whole rest
  | _ =>
    let (exponent, rest) ← exponent? rest
    match exponent with
    | some exponent => finishFloat (Double.ofParts false whole [] exponent) rest
    | none =>
      match rest with
      | 'j' :: rest => ending (.imaginary (Double.ofParts false whole [] 0)) rest
      | 'J' :: rest => ending (.imaginary (Double.ofParts false whole [] 0)) rest
      | _ =>
        if whole.head? = some '0' ∧ whole.any (· != '0') then none
        else ending (.int (valueIn 10 whole)) rest

/-- The number at the front of the characters, and the rest; nothing if it is malformed. The
first character is a digit, or a point before a digit. -/
def read? : List Char → Option (Literal × List Char)
  | '0' :: 'x' :: rest | '0' :: 'X' :: rest => inBase 16 isHexDigit rest
  | '0' :: 'o' :: rest | '0' :: 'O' :: rest => inBase 8 isOctalDigit rest
  | '0' :: 'b' :: rest | '0' :: 'B' :: rest => inBase 2 isBinaryDigit rest
  | '.' :: rest => afterPoint [] rest
  | chars => decimal? chars

/-- How many digits a whole number in base ten may have. -/
def maxDigits : Nat := 4300

/-- Whether the number at the front of the characters, if it is whole, is written in base ten with
too many digits. -/
def isOversized (chars : List Char) : Bool :=
  chars.head? != some '0' &&
    decide (maxDigits < (chars.takeWhile fun c => c.isDigit || c == '_').countP Char.isDigit)

end Number

namespace Escaped

/-- The character that a one-letter escape stands for. -/
def simple? : Char → Option Char
  | '\\' => some '\\'
  | '\'' => some '\''
  | '"' => some '"'
  | 'a' => some (Char.ofNat 7)
  | 'b' => some (Char.ofNat 8)
  | 'f' => some (Char.ofNat 12)
  | 'n' => some '\n'
  | 'r' => some '\r'
  | 't' => some '\t'
  | 'v' => some (Char.ofNat 11)
  | _ => none

/-- The first characters as a number in base sixteen, if there are enough of them. -/
def hex? (count : Nat) (chars : List Char) : Option Nat :=
  let digits := chars.take count
  if digits.length = count ∧ digits.all isHexDigit then some (valueIn 16 digits) else none

/-- How many of the first three characters form a number in base eight. -/
def octalCount (chars : List Char) : Nat := ((chars.take 3).takeWhile isOctalDigit).length

/-- The character that is named in braces at the front of the characters, and how many of them
belong to the name. -/
def named? : List Char → Option (Nat × Nat)
  | '\x7b' :: rest =>
    let name := rest.takeWhile (· != '\x7d')
    if name.isEmpty || name.length = rest.length then none
    else (Text.CharacterName.code? name).map fun code => (code, name.length + 2)
  | _ => none

/-- What the characters after a backslash stand for, and how many of them belong to the escape;
nothing if the escape is malformed. A backslash before any other character stands for itself. -/
def escape? (wide : Bool) (chars : List Char) : Option (List Nat × Nat) :=
  match chars with
  | [] => some (['\\'.toNat], 0)
  | c :: rest =>
    if c = '\n' then some ([], 1)
    else if isOctalDigit c then
      let count := octalCount chars
      some ([valueIn 8 (chars.take count)], count)
    else if c = 'x' then (hex? 2 rest).map fun n => ([n], 3)
    else if wide ∧ c = 'u' then (hex? 4 rest).map fun n => ([n], 5)
    else if wide ∧ c = 'U' then
      (hex? 8 rest).bind fun n => if n ≤ 0x10ffff then some ([n], 9) else none
    else if wide ∧ c = 'N' then (named? rest).map fun (code, count) => ([code], count + 1)
    else match simple? c with
      | some c => some ([c.toNat], 1)
      | none => some (['\\'.toNat], 0)

/-- The code points that a text with escapes stands for. The count says how many characters the
escape before still covers. -/
def decode? (wide : Bool) : Nat → List Char → Option (List Nat)
  | _, [] => some []
  | skip + 1, _ :: rest => decode? wide skip rest
  | 0, c :: rest =>
    if c = '\\' then do
      let (found, count) ← escape? wide rest
      let more ← decode? wide count rest
      some (found ++ more)
    else (decode? wide 0 rest).map (c.toNat :: ·)

/-- The code points of a string literal from what stands between its quotes. Only an escape of its
own stands for a surrogate. -/
def codes? (raw : Bool) (body : List Char) : Option (List Nat) :=
  if raw then some (body.map Char.toNat) else decode? true 0 body

/-- The bytes of a byte string literal from what stands between its quotes. -/
def bytes? (raw : Bool) (body : List Char) : Option (List UInt8) :=
  let codes := if raw then some (body.map Char.toNat) else decode? false 0 body
  codes.map fun codes => codes.map fun n => n.toUInt8

end Escaped

end CallSites.Source
