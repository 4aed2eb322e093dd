import TowerFold.Text.Digit

/-!
# Integer numerals

An integer is written with an optional sign and decimal digits of any script. Single
underscores may stand between digits, and blanks may stand around the whole. Numerals are
bounded: none is read or written that has more than `digitLimit` digits.
-/

namespace TowerFold.Text

/-- The largest number of decimal digits in a numeral. -/
def digitLimit : Nat := 4300

/-- The least number with more digits than a numeral may have. -/
def numeralBound : Nat := Nat.pow 10 digitLimit

/-- Whether the numeral of an integer is short enough to be written. The sign is not
counted. -/
def isWritable (n : Int) : Bool := decide (n.natAbs < numeralBound)

/-- How many decimal digits a text holds, leading zeros included. -/
def digitCount (cs : List Char) : Nat := cs.countP fun c => (decimalValue? c).isSome

/-- The blanks that may surround a numeral: tabs, line ends, spaces of any width and the
line and paragraph separators. -/
def isBlank (c : Char) : Bool :=
  (9 ≤ c.toNat && c.toNat ≤ 13) || (0x2000 ≤ c.toNat && c.toNat ≤ 0x200a) ||
    [0x20, 0x85, 0xa0, 0x1680, 0x2028, 0x2029, 0x202f, 0x205f, 0x3000].contains c.toNat

/-- The text without the blanks at both ends. -/
def trimBlanks (cs : List Char) : List Char :=
  ((cs.dropWhile isBlank).reverse.dropWhile isBlank).reverse

/-- Continues a numeral whose digits so far are worth `acc`. -/
def continueNatural? (acc : Nat) : List Char → Option Nat
  | [] => some acc
  | '_' :: c :: rest => do continueNatural? (10 * acc + (← decimalValue? c)) rest
  | c :: rest => do continueNatural? (10 * acc + (← decimalValue? c)) rest

/-- The number written by digits alone; it begins with a digit. -/
def readNatural? : List Char → Option Nat
  | [] => none
  | c :: rest => do continueNatural? (← decimalValue? c) rest

/-- The integer that a text writes. -/
def readInteger? (cs : List Char) : Option Int :=
  match trimBlanks cs with
  | '-' :: rest => (readNatural? rest).map fun n => -(n : Int)
  | '+' :: rest => (readNatural? rest).map Int.ofNat
  | rest => (readNatural? rest).map Int.ofNat

end TowerFold.Text
