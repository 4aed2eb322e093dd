import TowerFold.Limits

/-!
# Directives in texts

A text can be filled in with a number: a percent sign begins a directive, which says how
the number is written in its place. The number has to be used exactly once. Flags, a width,
a precision and a letter of length may stand before the letter that names the conversion;
a star in the place of the width or the precision takes the number for it.

Texts of bytes are filled in alike, with other names for the conversions to text.
-/

namespace TowerFold.Text

/-- Whether a text consists of characters or of bytes. -/
inductive Script
  | characters
  | bytes
  deriving DecidableEq

/-- Why a text cannot be filled in. -/
inductive Misfilling
  /-- No directive asks for the number. -/
  | unused
  /-- The number is asked for again. -/
  | exhausted
  /-- An item is asked for by its name. -/
  | unnamed
  /-- The text ends inside a directive. -/
  | incomplete
  /-- There is no conversion of this name, which stands at this position. -/
  | unknown (name : Char) (position : Nat)
  /-- There is no conversion of this name, and the name, a byte past the first 128, is no
  character. -/
  | unnameable
  /-- A width is no machine word. -/
  | widthTooBig
  /-- A precision is no short machine word. -/
  | precisionTooBig
  /-- A precision is close to the end of the short machine words. -/
  | precisionTooLarge
  /-- The number is no character. -/
  | notCharacter
  /-- The number has no bytes. -/
  | notBytes
  /-- A filled in directive would be too long to be held. -/
  | tooWide
  deriving DecidableEq

/-- Precisions from `2³¹` on do not fit a short machine word. -/
def precisionLimit : Nat := 2147483648

/-- How the number is to be written: the flags of a directive, the least number of columns,
and a precision if there is one. -/
structure Directive where
  /-- The number stands on the left of its columns. -/
  left : Bool := false
  /-- A positive number has a sign. -/
  signed : Bool := false
  /-- A positive number without a sign has a blank. -/
  spaced : Bool := false
  /-- The base or the point is always shown. -/
  marked : Bool := false
  /-- Columns on the left are filled with zeros. -/
  zeros : Bool := false
  /-- The least number of columns. -/
  width : Nat := 0
  /-- The number of digits or characters. -/
  precision? : Option Nat := none

namespace Directive

/-- A written number in its columns, after its sign and the mark of its base. -/
def columns (d : Directive) (mark digits : List Char) : List Char :=
  let sign := if d.signed then ['+'] else if d.spaced then [' '] else []
  let missing := d.width - (sign.length + mark.length + digits.length)
  if d.left then sign ++ mark ++ digits ++ List.replicate missing ' '
  else if d.zeros then sign ++ mark ++ List.replicate missing '0' ++ digits
  else List.replicate missing ' ' ++ sign ++ mark ++ digits

/-- A number as a text, cut to the precision. -/
def plain (d : Directive) (n : Nat) : List Char :=
  let digits := Nat.toDigits 10 n
  let shown := (d.precision?.map digits.take).getD digits
  { d with signed := false, spaced := false, zeros := false }.columns [] shown

/-- A number in a base, with at least as many digits as the precision says. -/
def integer (d : Directive) (base : Nat) (mark : List Char) (upper : Bool) (n : Nat) :
    List Char :=
  let digits := (Nat.toDigits base n).map fun c => if upper then c.toUpper else c
  let leading := List.replicate (d.precision?.getD 0 - digits.length) '0'
  d.columns (if d.marked then mark else []) (leading ++ digits)

/-- The decimal digits of a number rounded to so many places, halves to an even last digit,
with the exponent of the first one. -/
def rounded (n places : Nat) : List Char × Nat :=
  let digits := Nat.toDigits 10 n
  if digits.length ≤ places then
    (digits ++ List.replicate (places - digits.length) '0', digits.length - 1)
  else
    let unit := Nat.pow 10 (digits.length - places)
    let (shown, rest) := (n / unit, n % unit)
    let up := unit < 2 * rest || (unit = 2 * rest && shown % 2 = 1)
    let shown := Nat.toDigits 10 (if up then shown + 1 else shown)
    (shown.take places, digits.length - 1 + (shown.length - places))

/-- Digits after a decimal point, which is left out before none unless it is asked for. -/
def fraction (d : Directive) (digits : List Char) : List Char :=
  if digits.isEmpty && !d.marked then [] else '.' :: digits

/-- An exponent of at least two digits. -/
def exponent (letter : Char) (e : Nat) : List Char :=
  letter :: '+' :: (if e < 10 then '0' :: Nat.toDigits 10 e else Nat.toDigits 10 e)

/-- A number with one digit before the point and an exponent. -/
def scientific (d : Directive) (letter : Char) (n : Nat) : List Char :=
  let (digits, e) := rounded n (d.precision?.getD 6 + 1)
  d.columns [] (digits.take 1 ++ d.fraction (digits.drop 1) ++ exponent letter e)

/-- A number with a fraction of zeros. -/
def fixed (d : Directive) (n : Nat) : List Char :=
  d.columns [] (Nat.toDigits 10 n ++ d.fraction (List.replicate (d.precision?.getD 6) '0'))

/-- A number in the shorter of both forms. Zeros at the end of its fraction are only kept
where the point is always shown. -/
def general (d : Directive) (letter : Char) (n : Nat) : List Char :=
  let places := max 1 (d.precision?.getD 6)
  let (digits, e) := rounded n places
  let kept (digits : List Char) : List Char :=
    d.fraction (if d.marked then digits else (digits.reverse.dropWhile (· = '0')).reverse)
  d.columns [] <|
    if e < places then digits.take (e + 1) ++ kept (digits.drop (e + 1))
    else digits.take 1 ++ kept (digits.drop 1) ++ exponent letter e

/-- The number written by the conversion of a name, which stands at a position. Floating
point conversions write it exactly, as they do with every number below `2⁵³`. -/
def convert (d : Directive) (script : Script) (n position : Nat) (name : Char) :
    Except Misfilling (List Char) := do
  let integer (base : Nat) (mark : List Char) (upper : Bool) : Except Misfilling (List Char) :=
    if precisionLimit - 4 < d.precision?.getD 0 then throw .precisionTooLarge
    else return d.integer base mark upper n
  if addressSpace ≤ d.width then throw .tooWide
  match script, name with
  | .bytes, 's' | .bytes, 'b' => throw .notBytes
  | .characters, 's' | _, 'r' | _, 'a' => return d.plain n
  | _, 'd' | _, 'i' | _, 'u' => integer 10 [] false
  | _, 'o' => integer 8 ['0', 'o'] false
  | _, 'x' => integer 16 ['0', 'x'] false
  | _, 'X' => integer 16 ['0', 'X'] true
  | _, 'e' => return d.scientific 'e' n
  | _, 'E' => return d.scientific 'E' n
  | _, 'f' | _, 'F' => return d.fixed n
  | _, 'g' => return d.general 'e' n
  | _, 'G' => return d.general 'E' n
  | _, 'c' => throw .notCharacter
  | _, _ => throw (.unknown name position)

end Directive

/-- How far a directive is read. -/
inductive Stage
  /-- Flags, or what comes after them. -/
  | flags
  /-- Digits of the width. -/
  | width
  /-- A star was the width. -/
  | afterWidth
  /-- The point before the precision. -/
  | point
  /-- Digits of the precision. -/
  | precision
  /-- A star was the precision. -/
  | afterPrecision
  /-- A letter of length. -/
  | length
  deriving DecidableEq

/-- Where a reader of a text is. -/
inductive Phase
  /-- Outside of directives. -/
  | outside
  /-- After a percent sign. -/
  | opened
  /-- In a directive. -/
  | inside (stage : Stage) (d : Directive)

/-- What a reader has made of a text so far. -/
structure Filling where
  /-- Where the reader is. -/
  phase : Phase := .outside
  /-- What has been written. -/
  written : List Char := []
  /-- Whether the number is left. -/
  unused : Bool := true

namespace Filling

/-- The number is taken. -/
def take (f : Filling) : Except Misfilling Filling :=
  if f.unused then return { f with unused := false } else throw .exhausted

/-- A directive that is read further. -/
def go (f : Filling) (stage : Stage) (d : Directive) : Filling :=
  { f with phase := .inside stage d }

/-- A directive ends with the name of a conversion. A byte counts with a sign there, unless it
follows a digit. -/
def close (f : Filling) (script : Script) (n position : Nat) (stage : Stage) (d : Directive)
    (name : Char) : Except Misfilling Filling := do
  let f ← f.take
  if script = .bytes && 128 ≤ name.toNat && stage ≠ .width && stage ≠ .precision then
    throw .unnameable
  return { f with phase := .outside, written := f.written ++ (← d.convert script n position name) }

/-- A number continued by a digit, which has to stay below a limit. -/
def extend (limit number : Nat) (c : Char) (refusal : Misfilling) : Except Misfilling Nat :=
  let number := 10 * number + (c.toNat - '0'.toNat)
  if limit ≤ number then throw refusal else return number

/-- One more character of a directive. A character that does not continue it ends it. -/
def readInside (f : Filling) (script : Script) (n position : Nat) (stage : Stage)
    (d : Directive) (c : Char) : Except Misfilling Filling := do
  let isLength := c = 'h' || c = 'l' || c = 'L'
  match stage, c with
  | .flags, '-' => return f.go .flags { d with left := true }
  | .flags, '+' => return f.go .flags { d with signed := true }
  | .flags, ' ' => return f.go .flags { d with spaced := true }
  | .flags, '#' => return f.go .flags { d with marked := true }
  | .flags, '0' => return f.go .flags { d with zeros := true }
  | .flags, '*' => return (← f.take).go .afterWidth { d with width := n }
  | .point, '*' => return (← f.take).go .afterPrecision { d with precision? := some n }
  | .flags, '.' | .width, '.' | .afterWidth, '.' => return f.go .point { d with precision? := some 0 }
  | _, _ =>
    if c.isDigit && (stage = .flags || stage = .width) then
      return f.go .width { d with width := ← extend countLimit d.width c .widthTooBig }
    else if c.isDigit && (stage = .point || stage = .precision) then
      let precision ← extend precisionLimit (d.precision?.getD 0) c .precisionTooBig
      return f.go .precision { d with precision? := some precision }
    else if isLength && stage ≠ .length then return f.go .length d
    else f.close script n position stage d c

/-- One more character of a text. A percent sign after another one stands for itself. -/
def read (script : Script) (n : Nat) (f : Filling) : Char × Nat → Except Misfilling Filling
  | (c, position) =>
    match f.phase with
    | .outside =>
      if c = '%' then return { f with phase := .opened }
      else return { f with written := f.written ++ [c] }
    | .opened =>
      if c = '%' then return { f with phase := .outside, written := f.written ++ ['%'] }
      else if c = '(' then throw .unnamed
      else f.readInside script n position .flags {} c
    | .inside stage d => f.readInside script n position stage d c

/-- A text that is read to its end has no open directive and no use for another number. -/
def finish (f : Filling) : Except Misfilling (List Char) :=
  match f.phase with
  | .outside => if f.unused then throw .unused else return f.written
  | _ => throw .incomplete

end Filling

/-- A text filled in with a number. -/
def fill (script : Script) (n : Nat) (cs : List Char) : Except Misfilling (List Char) := do
  (← cs.zipIdx.foldlM (Filling.read script n) {}).finish

/-- Characters outside of directives are written as they are. -/
theorem Filling.foldlM_read (script : Script) (n : Nat) {cs : List Char}
    (hcs : '%' ∉ cs) (position : Nat) {f : Filling} (hf : f.phase = .outside) :
    (cs.zipIdx position).foldlM (read script n) f =
      .ok { f with written := f.written ++ cs } := by
  induction cs generalizing position f with
  | nil => simp [pure, Except.pure]
  | cons c cs ih =>
    have hc : c ≠ '%' := fun h => hcs (h ▸ List.mem_cons_self)
    have hread : read script n f (c, position) = .ok { f with written := f.written ++ [c] } := by
      simp [read, hf, hc, pure, Except.pure]
    have hrest : '%' ∉ cs := fun h => hcs (List.mem_cons_of_mem c h)
    have hgoes := ih hrest (position + 1) (f := { f with written := f.written ++ [c] }) hf
    rw [List.zipIdx_cons, List.foldlM_cons, hread]
    refine hgoes.trans ?_
    rw [List.append_assoc, List.singleton_append]

/-- A text without a percent sign has no use for a number. -/
theorem fill_of_not_mem (script : Script) (n : Nat) {cs : List Char} (hcs : '%' ∉ cs) :
    fill script n cs = .error .unused := by
  rw [fill, Filling.foldlM_read script n hcs 0 rfl]
  rfl

end TowerFold.Text
