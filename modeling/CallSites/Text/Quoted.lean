import CallSites.Text.Printable

/-! # Quoted text

Strings and byte strings as literals. Single quotes are used unless the text holds a single quote
and no double quote. A backslash, the quote in use and whatever is not printable are escaped.
-/

namespace CallSites.Text

/-- The code points of a text. -/
def codes (text : String) : List Nat := text.toList.map Char.toNat

/-- The quote in which code points are shown. -/
def quoteFor (codes : List Nat) : Char :=
  if '\''.toNat ∈ codes ∧ '"'.toNat ∉ codes then '"' else '\''

/-- A number in base sixteen with at least `width` digits. -/
def hex (width n : Nat) : List Char :=
  let digits := Nat.toDigits 16 n
  List.replicate (width - digits.length) '0' ++ digits

/-- The escape of a code point by its number. -/
def numberEscape (code : Nat) : List Char :=
  if code < 0x100 then '\\' :: 'x' :: hex 2 code
  else if code < 0x10000 then '\\' :: 'u' :: hex 4 code
  else '\\' :: 'U' :: hex 8 code

/-- A code point as it is, if it is printable, or by its number. -/
def shownCode (code : Nat) : List Char :=
  if !isSurrogate code && isPrintable (Char.ofNat code) then [Char.ofNat code]
  else numberEscape code

/-- One code point of a quoted text. -/
def escapeCode (quote : Char) (code : Nat) : List Char :=
  if code = '\\'.toNat ∨ code = quote.toNat then ['\\', Char.ofNat code]
  else if code = '\n'.toNat then ['\\', 'n']
  else if code = '\r'.toNat then ['\\', 'r']
  else if code = '\t'.toNat then ['\\', 't']
  else shownCode code

/-- Code points as a string literal. -/
def quotedCodes (codes : List Nat) : String :=
  let quote := quoteFor codes
  String.ofList (quote :: codes.flatMap (escapeCode quote) ++ [quote])

/-- A text as a string literal. -/
def quoted (text : String) : String := quotedCodes (codes text)

/-- One byte of a quoted byte string: printable ASCII is shown, all else is escaped. -/
def escapeByte (quote : Char) (byte : UInt8) : List Char :=
  if byte.toNat < 128 then escapeCode quote byte.toNat else numberEscape byte.toNat

/-- Bytes as a byte string literal. -/
def quotedBytes (data : List UInt8) : String :=
  let quote := quoteFor (data.map UInt8.toNat)
  String.ofList ('b' :: quote :: data.flatMap (escapeByte quote) ++ [quote])

end CallSites.Text
