import CallSites.Number.Decimal
import CallSites.Number.Extended
import CallSites.Text.Quoted

/-! # Plain values

What a tree holds besides nodes and lists. Plain values are compared in two ways: `equal` asks for
one type and numerical equality, `alike` compares numbers of all types with each other. `shown` is
the text of a value inside a listing.
-/

namespace CallSites.Tree

/-- A value without parts. -/
inductive Plain where
  | null
  | bool (b : Bool)
  | int (n : Int)
  | float (x : Double)
  | complex (re im : Double)
  | str (s : String)
  /-- A text with lone surrogates. -/
  | surrogates (s : Text.SurrogateText)
  | bytes (data : List UInt8)
  | ellipsis
deriving DecidableEq, Repr, Inhabited

namespace Plain

/-- The text that consists of the given code points. -/
def ofCodes (codes : List Nat) : Plain :=
  if lone : codes.any Text.isSurrogate = true then surrogates ⟨codes, lone⟩
  else str (String.ofList (codes.map Char.ofNat))

/-- The code points of a text. -/
def codes? : Plain → Option (List Nat)
  | str s => some (Text.codes s)
  | surrogates s => some s.codes
  | _ => none

/-- What a text or a byte string runs through: texts of one character, or numbers. -/
def elements? : Plain → Option (List Plain)
  | str s => some (s.toList.map fun c => str (String.singleton c))
  | surrogates s => some (s.codes.map fun code => ofCodes [code])
  | bytes data => some (data.map fun byte => int byte.toNat)
  | _ => none

/-- The name of the type of a value, as messages give it. -/
def typeName : Plain → String
  | null => "NoneType"
  | bool _ => "bool"
  | int _ => "int"
  | float _ => "float"
  | complex .. => "complex"
  | str _ | surrogates _ => "str"
  | bytes _ => "bytes"
  | ellipsis => "ellipsis"

/-- Whether a value counts as true where a truth value is asked for: null, zero and what is empty
do not. -/
def truthy : Plain → Bool
  | null => false
  | bool b => b
  | int n => n != 0
  | float x => !x.isZero
  | complex re im => !(re.isZero && im.isZero)
  | str s => !s.isEmpty
  | surrogates _ => true
  | bytes data => !data.isEmpty
  | ellipsis => true

/-- Whether a value exists only once, so that two occurrences of it are one object: the constants,
the numbers from -5 to 256, and texts and byte strings of at most one character, which for a text
lies in the first 256. -/
def isShared : Plain → Bool
  | null | bool _ | ellipsis => true
  | int n => decide (-5 ≤ n) && decide (n ≤ 256)
  | float _ | complex .. | surrogates _ => false
  | str s => decide (s.length ≤ 1) && s.toList.all fun c => decide (c.toNat < 256)
  | bytes data => decide (data.length ≤ 1)

/-- Equality of values of one type. -/
def equal : Plain → Plain → Bool
  | null, null => true
  | bool a, bool b => a == b
  | int a, int b => a == b
  | float a, float b => a.sameNumber b
  | complex a b, complex c d => a.sameNumber c && b.sameNumber d
  | str a, str b => a == b
  | surrogates a, surrogates b => a == b
  | bytes a, bytes b => a == b
  | ellipsis, ellipsis => true
  | _, _ => false

/-- The number that a value is, if it can be ordered; a truth value is zero or one. -/
def number? : Plain → Option Extended
  | bool b => some (.ofInt (if b then 1 else 0))
  | int n => some (.ofInt n)
  | float x => some (.ofDouble x)
  | _ => none

/-- The real and the imaginary part of a number. -/
def parts? : Plain → Option (Extended × Extended)
  | complex re im => some (.ofDouble re, .ofDouble im)
  | v => v.number?.map (·, .ofInt 0)

/-- Equality across types: numbers are compared by what they are worth. -/
def alike (left right : Plain) : Bool :=
  match left.parts?, right.parts? with
  | some (a, b), some (c, d) => a.same c && b.same d
  | none, none => left.equal right
  | _, _ => false

/-- How many digits a number may have to be shown. -/
def maxDigits : Nat := 4300

/-- Whether a value is a number with too many digits to be shown. -/
def isTooLong : Plain → Bool
  | int n => decide (Double.tenTo maxDigits ≤ n.natAbs)
  | _ => false

/-- A value inside a listing. -/
def shown : Plain → String
  | null => "None"
  | bool true => "True"
  | bool false => "False"
  | int n => toString n
  | float x => x.written .alone
  | complex re im => Double.writtenComplex .alone re im
  | str s => Text.quoted s
  | surrogates s => Text.quotedCodes s.codes
  | bytes data => Text.quotedBytes data
  | ellipsis => "Ellipsis"

end Plain

end CallSites.Tree
