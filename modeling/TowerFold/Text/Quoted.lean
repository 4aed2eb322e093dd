import TowerFold.Text.Printable

/-!
# Quoted text and bytes

A quoted text stands between single quotes, or between double quotes when it holds a
single quote and no double one. Backslashes, the surrounding quote and everything
unprintable are escaped.
-/

namespace TowerFold.Text

/-- The quotation mark around a text: the double one only where that saves escapes. -/
def quotationMark (cs : List Char) : Char :=
  if cs.contains '\'' && !cs.contains '"' then '"' else '\''

/-- A number in lower-case hexadecimal digits, padded with zeros to `width`. -/
def hexadecimal (width n : Nat) : List Char :=
  let digits := Nat.toDigits 16 n
  List.replicate (width - digits.length) '0' ++ digits

/-- The numeric escape of a character, in two, four or eight hexadecimal digits. -/
def numericEscape (c : Char) : List Char :=
  if c.toNat < 0x100 then '\\' :: 'x' :: hexadecimal 2 c.toNat
  else if c.toNat < 0x10000 then '\\' :: 'u' :: hexadecimal 4 c.toNat
  else '\\' :: 'U' :: hexadecimal 8 c.toNat

/-- How a character is written between the given quotation marks, where `shown` says
which characters need no numeric escape. -/
def escaped (mark : Char) (shown : Char → Bool) (c : Char) : List Char :=
  if c = mark || c = '\\' then ['\\', c]
  else if c = '\n' then ['\\', 'n']
  else if c = '\r' then ['\\', 'r']
  else if c = '\t' then ['\\', 't']
  else if shown c then [c]
  else numericEscape c

/-- A text between quotation marks. -/
def quote (s : String) : String :=
  let mark := quotationMark s.toList
  String.ofList (mark :: s.toList.flatMap (escaped mark isPrintable) ++ [mark])

/-- Whether a character is a visible one of the first 128, or the space. -/
def isVisibleAscii (c : Char) : Bool := 0x20 ≤ c.toNat && c.toNat < 0x7f

/-- Bytes between quotation marks after the letter `b`; what is not visible is written
by its number. -/
def quoteBytes (data : List UInt8) : String :=
  let cs := data.map fun b => Char.ofNat b.toNat
  let mark := quotationMark cs
  String.ofList ('b' :: mark :: cs.flatMap (escaped mark isVisibleAscii) ++ [mark])

end TowerFold.Text
