import CallSites.Number.Double

/-! # Decimal text of doubles

`ofDecimal` reads digits with a power of ten, `shortest` finds the fewest digits that read back as
a given double and of those the closest, and `written` lays such digits out as text.
-/

namespace CallSites.Double

/-- A power of ten. -/
def tenTo (exponent : Nat) : Nat := Nat.pow 10 exponent

/-- How many decimal digits a natural number has. -/
def digitCount (n : Nat) : Nat := (Nat.toDigits 10 n).length

/-- The double nearest to `digits · 10 ^ exponent`. Powers that lie far outside the range of
doubles are decided by size alone. -/
def ofDecimal (negative : Bool) (digits : Nat) (exponent : Int) : Double :=
  let size : Int := digitCount digits + exponent
  if digits = 0 ∨ size < -330 then ofMagnitude negative 0
  else if 330 < size then ofMagnitude negative infinity
  else ofMagnitude negative (nearest (digits * tenTo exponent.toNat) (tenTo (-exponent).toNat))

/-- How many zeros stand between the decimal point and the first digit of `num / den < 1`, added
to `count`; the search ends after `bound` of them. -/
def leadingZeros (num den : Nat) : Nat → Nat → Nat
  | 0, count => count
  | bound + 1, count =>
    if den ≤ num * 10 then count else leadingZeros (num * 10) den bound (count + 1)

/-- The power of ten just above `num / den`, as an exponent. -/
def pointPlace (num den : Nat) : Int :=
  if den ≤ num then digitCount (num / den) else -(leadingZeros num den 400 0 : Nat)

/-- The closest number with `count` digits that reads back as `magnitude`, if there is one, as
digits and a power of ten. Of two equally close ones the even one is taken. -/
def readingBack? (magnitude : Nat) (count : Nat) : Option (Nat × Int) :=
  let (num, den) := ratio magnitude
  let power := pointPlace num den - count
  let num' := num * tenTo (-power).toNat
  let den' := den * tenTo power.toNat
  let low := num' / den'
  let rest := num' % den'
  let readsBack (digits : Nat) : Bool :=
    nearest (digits * tenTo power.toNat) (tenTo (-power).toNat) == magnitude
  let nearer := roundDiv num' den'
  if readsBack nearer then some (nearer, power)
  else
    let other := if nearer = low ∧ rest ≠ 0 then low + 1 else low
    if readsBack other then some (other, power) else none

/-- Digits without their final zeros, and the power of ten that makes up for them. -/
def trimZeros : Nat → Nat → Int → Nat × Int
  | 0, digits, power => (digits, power)
  | bound + 1, digits, power =>
    if digits % 10 = 0 ∧ digits ≠ 0 then trimZeros bound (digits / 10) (power + 1)
    else (digits, power)

/-- The fewest digits that read back as a finite magnitude, with their power of ten. -/
def shortest (magnitude : Nat) : Nat × Int :=
  let found := (List.range 17).findSome? fun n => readingBack? magnitude (n + 1)
  let (digits, power) := found.getD (0, 0)
  trimZeros 20 digits power

/-- How a number is laid out: whether a whole number shows a fraction, and the words for what is
no finite number. -/
structure Layout where
  wholeFraction : Bool
  infinite : String
  notANumber : String

/-- A number that stands alone always shows a fraction or an exponent. -/
def Layout.alone : Layout := ⟨true, "inf", "nan"⟩

/-- A literal has no words: an infinity is a number too large to be finite, and a NaN is the
difference of two of them. -/
def Layout.literal : Layout := ⟨true, "1e309", "(1e309-1e309)"⟩

/-- A part of a complex number shows no empty fraction. -/
def Layout.part (layout : Layout) : Layout := { layout with wholeFraction := false }

/-- The exponent with its sign and at least two digits. -/
def exponentText (e : Int) : String :=
  let digits := toString e.natAbs
  (if e < 0 then "e-" else "e+") ++ (if digits.length < 2 then "0" ++ digits else digits)

def zeros (n : Nat) : String := String.ofList (List.replicate n '0')

/-- Digits with their decimal point: positional while the point stands less than four places
before the first digit and at most sixteen after it, otherwise with an exponent. -/
def placed (layout : Layout) (digits : Nat) (power : Int) : String :=
  let chars := Nat.toDigits 10 digits
  let point : Int := chars.length + power
  if -4 < point ∧ point ≤ 16 then
    if point ≤ 0 then "0." ++ zeros (-point).toNat ++ String.ofList chars
    else if chars.length ≤ point.toNat then
      String.ofList chars ++ zeros (point.toNat - chars.length) ++
        (if layout.wholeFraction then ".0" else "")
    else String.ofList (chars.take point.toNat) ++ "." ++ String.ofList (chars.drop point.toNat)
  else
    let fraction := chars.drop 1
    String.ofList (chars.take 1) ++ (if fraction.isEmpty then "" else "." ++ String.ofList fraction)
      ++ exponentText (point - 1)

/-- The text of a number: the fewest digits that read back as it. -/
def written (layout : Layout) (x : Double) : String :=
  let sign := if x.isNegative then "-" else ""
  if x.isNaN then layout.notANumber
  else if x.isInfinite then sign ++ layout.infinite
  else if x.isZero then sign ++ (if layout.wholeFraction then "0.0" else "0")
  else
    let (digits, power) := shortest x.magnitude
    sign ++ placed layout digits power

/-- The text of a complex number. A real part that is a positive zero is left out; any other one
is shown with the imaginary part in parentheses. -/
def writtenComplex (layout : Layout) (re im : Double) : String :=
  if re.isZero ∧ ¬ re.isNegative then im.written layout.part ++ "j"
  else
    let sign := if im.isNegative ∧ ¬ im.isNaN then "" else "+"
    "(" ++ re.written layout.part ++ sign ++ im.written layout.part ++ "j)"

/-- The value of a list of decimal digits. -/
def digitsValue (digits : List Char) : Nat :=
  digits.foldl (fun n c => 10 * n + (c.toNat - '0'.toNat)) 0

/-- Reads a whole part, a fraction and an exponent, each given as digits. -/
def ofParts (negative : Bool) (whole fraction : List Char) (exponent : Int) : Double :=
  ofDecimal negative (digitsValue (whole ++ fraction)) (exponent - fraction.length)

/-- Reads an optional exponent at the end of a number. -/
def readExponent? : List Char → Option Int
  | [] => some 0
  | 'e' :: '-' :: digits => some (-(digitsValue digits : Int))
  | 'e' :: '+' :: digits => some (digitsValue digits : Int)
  | 'e' :: digits => some (digitsValue digits : Int)
  | _ => none

/-- Reads what `written` writes. -/
def read? (text : String) : Option Double :=
  let (negative, chars) := match text.toList with
    | '-' :: rest => (true, rest)
    | rest => (false, rest)
  if chars = "nan".toList then some nan
  else if chars = "inf".toList then some (ofMagnitude negative infinity)
  else
    let whole := chars.takeWhile Char.isDigit
    let rest := chars.dropWhile Char.isDigit
    let (fraction, rest) := match rest with
      | '.' :: more => (more.takeWhile Char.isDigit, more.dropWhile Char.isDigit)
      | _ => ([], rest)
    (readExponent? rest).map fun exponent => ofParts negative whole fraction exponent

end CallSites.Double
