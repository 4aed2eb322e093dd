import TowerFold.Operand.Rendering
import TowerFold.Strategy.Names
import TowerFold.Text.Directives

/-!
# Faults

Every way in which an operation can fail, by its cause. A fault carries what its message repeats:
operators, operands and numbers. So outcomes that are equal end in errors of one class with one
message. A cause that is explained to the caller is only stated when its message can be written.
-/

namespace TowerFold

/-- The binary operators of arithmetic. -/
inductive Operator
  | add
  | sub
  | mul
  | div
  | pow
  deriving DecidableEq

/-- How an operator is named in messages. -/
def Operator.symbol : Operator → String
  | .add => "+"
  | .sub => "-"
  | .mul => "*"
  | .div => "/"
  | .pow => "** or pow()"

/-- Why an operation gives no result. -/
inductive Fault
  /-- No side of an operator has a meaning for it with the other side. -/
  | unsupported (op : Operator) (left right : Operand)
  /-- An operand has no negative. -/
  | noNegative (v : Operand)
  /-- There is no power modulo the characteristic of this representative and exponent. -/
  | noPower (base exponent : Operand)
  /-- An operand is not ordered against integers. -/
  | notComparable (relation : String) (v : Operand)
  /-- There is no remainder of an operand, so the base class does not keep it. -/
  | noRemainder (v : Operand)
  /-- A text or bytes were to be filled in and cannot be. -/
  | misfilled (script : Text.Script) (cause : Text.Misfilling)
  /-- An operand was accepted as this element, which a field does not have. Whoever can go on
  with it does. -/
  | irregular (x : Irregular)
  /-- A grid of this many entries is neither true nor false. -/
  | ambiguous (count : Nat)
  /-- An operand was to be read as an integer, and its kind is read as none. -/
  | noInteger (v : Operand)
  /-- What an element keeps was to be an integer, and is of this other kind. -/
  | notIntegral (kind : String)
  /-- The operand has no place in the extension field it was offered to. -/
  | incompatible (value : Operand)
  /-- An element was given another number of coordinates than its field has. -/
  | coordinateCount (given : Nat)
  /-- A sequence was to be measured. -/
  | notSized (v : Operand)
  /-- A sequence was to be gone through. -/
  | notIterable (v : Operand)
  /-- A sequence was to be indexed. -/
  | notIndexable (v : Operand)
  /-- A field has no inverse of zero. -/
  | zeroInverse
  /-- Zero has no power with a negative exponent. -/
  | zeroToNegativePower
  /-- A count, of this kind, is no signed machine word. -/
  | countOverflow (kind : String)
  /-- A text or bytes cannot be repeated that often. -/
  | repetitionOverflow (v : Operand)
  /-- A sequence or an integer would be too long to hold. -/
  | tooLong
  /-- The digits of a power of two could not even be counted in a machine word. -/
  | powerOverflow
  /-- A text or bytes do not write an integer. -/
  | malformedNumeral (v : Operand)
  /-- A numeral to be read has this many digits, which are too many. -/
  | digitsTooMany (count : Nat)
  /-- An integer has more decimal digits than a numeral may have. -/
  | numeralTooLong
  /-- Lists and grids have no hash. -/
  | unhashable (v : Operand)
  /-- A number is not a byte. -/
  | byteOutOfRange
  /-- An item was to be a byte. -/
  | noByte (v : Operand)
  /-- Bytes were to be read. -/
  | noBytes (v : Operand)
  /-- A value has no byte form. -/
  | noByteForm (kind : String)
  /-- An operand has no inverse to ask for. -/
  | noInverse (v : Operand)
  /-- A logarithm was asked of a number that is no power of two. -/
  | noLogarithm
  /-- The number of values to fold is no power of two. -/
  | countNotPowerOfTwo (count : Nat)
  /-- The number of values asks for another number of factors. -/
  | factorCount (values needed given : Nat)
  /-- A window has another size than its level asks for. -/
  | levelSize (level size : Int) (expected : Nat)
  /-- A level lies below the last factor. -/
  | levelTooDeep
  /-- A window has more levels than are folded inside each other. -/
  | nestedTooDeep
  /-- An index lies outside a sequence. -/
  | indexOutOfRange (v : Operand)
  /-- There is no factor of this level. -/
  | noFactor (level : Int)
  /-- The innermost axis of a grid has no four places. -/
  | shortAxis
  /-- No strategy has this name. -/
  | unknownStrategy (name : Operand)
  /-- A strategy does not take this option. -/
  | unknownOption (name : String)
  /-- A negative number of levels was asked to be forked. -/
  | negativeDepth (depth : Int)
  /-- A pool was asked for without workers. -/
  | noWorkers
  /-- Work was to be spread over something that is no pool. -/
  | notPool
  /-- The strategy has no schedule. -/
  | noSchedule
  /-- A machine word cannot hold this integer. -/
  | wordOverflow (n : Int)
  /-- Grids of these axes do not fit each other, from the outermost axes inwards. -/
  | shapeMismatch (shape shape' : List Nat)
  /-- Nested lists are no rectangular grid. -/
  | ragged
  /-- Lists are nested more deeply than a grid has axes. -/
  | tooManyAxes
  /-- An input of negative size was asked for. -/
  | negativeSize
  /-- A source without integers was drawn from. -/
  | noDraws
  /-- Two ways to compute the same fold gave different results. -/
  | disagreement

/-- The classes of errors. -/
inductive ErrorClass
  /-- An operand is of a kind that has no place there. -/
  | kind
  /-- An operand is of the right kind and not right. -/
  | value
  | overflow
  | zeroDivision
  | memory
  | recursion
  | index
  | attribute
  | assertion
  /-- The sizes of a fold do not match. -/
  | precondition
  | unimplemented
  deriving DecidableEq

/-- The class of the error of a text that cannot be filled in. -/
def Text.Misfilling.errorClass : Text.Misfilling → ErrorClass
  | .unused | .exhausted | .unnamed | .notBytes => .kind
  | .incomplete | .unknown _ _ | .widthTooBig | .precisionTooBig => .value
  | .unnameable | .precisionTooLarge | .notCharacter => .overflow
  | .tooWide => .memory

/-- How a name that is no conversion is shown: among characters only as far as it is a plain
one. -/
def Text.Script.shown (script : Text.Script) (name : Char) : String :=
  if script = .bytes || (31 ≤ name.toNat && name.toNat < 128) then String.singleton name else "?"

/-- The message of a text that cannot be filled in; none where it is too long to be held. -/
def Text.Misfilling.message (script : Text.Script) : Text.Misfilling → Option String
  | .unused =>
    some ("not all arguments converted during " ++
      (if script = .bytes then "bytes" else "string") ++ " formatting")
  | .exhausted => some "not enough arguments for format string"
  | .unnamed => some "format requires a mapping"
  | .incomplete => some "incomplete format"
  | .unknown name position =>
    some ("unsupported format character '" ++ script.shown name ++ "' (0x" ++
      String.ofList (Nat.toDigits 16 name.toNat) ++ ") at index " ++ toString position)
  | .unnameable => some "character argument not in range(0x110000)"
  | .widthTooBig => some "width too big"
  | .precisionTooBig => some (if script = .bytes then "prec too big" else "precision too big")
  | .precisionTooLarge => some "precision too large"
  | .notCharacter =>
    some ("%c arg not in range(" ++ (if script = .bytes then "256" else "0x110000") ++ ")")
  | .notBytes =>
    some "%b requires a bytes-like object, or an object that implements __bytes__, not 'int'"
  | .tooWide => none

namespace Fault

/-- The class of the error in which a fault ends. -/
def errorClass : Fault → ErrorClass
  | .unsupported _ _ _ | .noNegative _ | .noPower _ _ | .notComparable _ _ | .noRemainder _
  | .irregular _ | .noInteger _ | .notIntegral _ | .incompatible _ | .coordinateCount _
  | .notSized _ | .notIterable _ | .notIndexable _ | .unhashable _ | .noByte _ | .noBytes _
  | .unknownOption _ | .notPool => .kind
  | .misfilled _ cause => cause.errorClass
  | .ambiguous _ | .zeroToNegativePower | .malformedNumeral _ | .digitsTooMany _
  | .numeralTooLong | .byteOutOfRange | .levelTooDeep | .unknownStrategy _ | .negativeDepth _
  | .noWorkers | .shapeMismatch _ _ | .ragged | .tooManyAxes | .negativeSize => .value
  | .countOverflow _ | .repetitionOverflow _ | .powerOverflow | .wordOverflow _ => .overflow
  | .zeroInverse | .noDraws => .zeroDivision
  | .tooLong => .memory
  | .nestedTooDeep => .recursion
  | .indexOutOfRange _ | .noFactor _ | .shortAxis => .index
  | .noByteForm _ | .noInverse _ => .attribute
  | .noLogarithm | .disagreement => .assertion
  | .countNotPowerOfTwo _ | .factorCount _ _ _ | .levelSize _ _ _ => .precondition
  | .noSchedule => .unimplemented

/-- Whether a cause is explained to the caller, and not by the runtime. -/
def isExplained : Fault → Bool
  | .incompatible _ | .zeroInverse | .countNotPowerOfTwo _ | .factorCount _ _ _
  | .levelSize _ _ _ | .unknownStrategy _ | .negativeDepth _ => true
  | _ => false

/-- The kind of an operand between quotation marks. -/
def quotedKind (v : Operand) : String := "'" ++ v.kind ++ "'"

/-- The message of an operator that neither side supports. Sequences that are joined or repeated
have messages of their own, and where words take part there is no fixed one. -/
def unsupportedMessage (op : Operator) (left right : Operand) : Option String :=
  let general := "unsupported operand type(s) for " ++ op.symbol ++ ": " ++ quotedKind left ++
    " and " ++ quotedKind right
  let joined (v : Operand) : String :=
    "can only concatenate " ++ v.kind ++ " (not \"" ++ right.kind ++ "\") to " ++ v.kind
  let repeated (count : Operand) : String :=
    "can't multiply sequence by non-int of type " ++ quotedKind count
  match op, left, right with
  | _, .word _, _ | _, .grid _, _ | _, _, .word _ | _, _, .grid _ => none
  | .add, .bytes _, _ => some ("can't concat " ++ right.kind ++ " to bytes")
  | .add, .text _, _ | .add, .group _ _, _ => some (joined left)
  | .mul, .text _, _ | .mul, .bytes _, _ | .mul, .group _ _, _ => some (repeated right)
  | .mul, _, .text _ | .mul, _, .bytes _ | .mul, _, .group _ _ => some (repeated left)
  | _, _, _ => some general

/-- The message of a fault. There is none where the runtime says nothing, and where what it says
is not fixed by the cause. -/
def message : Fault → Option String
  | .unsupported op left right => unsupportedMessage op left right
  | .noNegative v => some ("bad operand type for unary -: " ++ quotedKind v)
  | .noPower base exponent =>
    some ("unsupported operand type(s) for ** or pow(): " ++ quotedKind base ++ ", " ++
      quotedKind exponent ++ ", 'int'")
  | .notComparable relation v =>
    some ("'" ++ relation ++ "' not supported between instances of " ++ quotedKind v ++
      " and 'int'")
  | .noRemainder v =>
    some ("unsupported operand type(s) for %: " ++ quotedKind v ++ " and 'int'")
  | .misfilled script cause => cause.message script
  | .noInteger (.grid _) => none
  | .noInteger v =>
    some ("int() argument must be a string, a bytes-like object or a real number, not " ++
      quotedKind v)
  | .notIntegral kind => some ("__int__ returned non-int (type " ++ kind ++ ")")
  | .incompatible value => some ("Incompatible value: " ++ value.render)
  | .notSized v => some ("object of type " ++ quotedKind v ++ " has no len()")
  | .notIterable v => some (quotedKind v ++ " object is not iterable")
  | .notIndexable v => some (quotedKind v ++ " object is not subscriptable")
  | .zeroInverse => some "M31 zero has no inverse"
  | .zeroToNegativePower => some "base is not invertible for the given modulus"
  | .countOverflow kind => some ("cannot fit '" ++ kind ++ "' into an index-sized integer")
  | .repetitionOverflow v =>
    some ("repeated " ++ (match v with | .bytes _ => "bytes are" | _ => "string is") ++
      " too long")
  | .powerOverflow => some "too many digits in integer"
  | .malformedNumeral v =>
    some ("invalid literal for int() with base 10: " ++
      String.ofList (v.quoted.toList.take 200))
  | .digitsTooMany count =>
    some ("Exceeds the limit (" ++ toString Text.digitLimit ++
      " digits) for integer string conversion: value has " ++ toString count ++
      " digits; use sys.set_int_max_str_digits() to increase the limit")
  | .numeralTooLong =>
    some ("Exceeds the limit (" ++ toString Text.digitLimit ++
      " digits) for integer string conversion; use sys.set_int_max_str_digits() to increase " ++
      "the limit")
  | .unhashable v => some ("unhashable type: " ++ quotedKind v)
  | .byteOutOfRange => some "bytes must be in range(0, 256)"
  | .noByte v => some (quotedKind v ++ " object cannot be interpreted as an integer")
  | .noBytes v => some ("cannot convert " ++ quotedKind v ++ " object to bytes")
  | .noByteForm kind => some ("'" ++ kind ++ "' object has no attribute 'to_bytes'")
  | .noInverse v => some (quotedKind v ++ " object has no attribute 'inv'")
  | .countNotPowerOfTwo count =>
    some ("Fold needs a power-of-two number of values, got " ++ toString count)
  | .factorCount values needed given =>
    some ("Folding " ++ toString values ++ " values needs " ++ toString needed ++
      " factors, got " ++ toString given)
  | .levelSize level size expected =>
    some ("Folding level " ++ toString level ++ " holds " ++ toString size ++
      " values, expected " ++ toString expected)
  | .levelTooDeep | .negativeSize => some "negative shift count"
  | .indexOutOfRange v =>
    match v with
    | .group _ _ => some (v.kind ++ " index out of range")
    | .text _ => some "string index out of range"
    | .bytes _ => some "index out of range"
    | .word _ => some "invalid index to scalar variable."
    | _ => none
  | .unknownStrategy name =>
    some ("Unknown backend " ++ name.render ++ ", expected one of " ++
      (Operand.group .square (Strategy.names.map .text)).render)
  | .negativeDepth depth =>
    some ("depth must be non-negative, got " ++ toString depth)
  | .noWorkers => some "max_workers must be greater than 0"
  | _ => none

/-- The operands whose texts a message repeats. Numbers of items are not among them: they
are always short. -/
def repeats : Fault → List Operand
  | .incompatible value => [value]
  | .levelSize level size expected => [.int level, .int size, .int expected]
  | .unknownStrategy name => [name]
  | .negativeDepth depth => [.int depth]
  | _ => []

/-- A fault as it is raised: it gives way to the fault of its message when that would hold
an integer that is too long to be written. -/
def stated (f : Fault) : Fault :=
  if Operand.areWritable f.repeats then f else .numeralTooLong

end Fault

end TowerFold
