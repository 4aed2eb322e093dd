import TowerFold.Fault

/-!
# Sequences of operands

Lengths, items and indices of the operands that are sequences, and how sequences of
one kind are joined and repeated.
-/

namespace TowerFold.Operand

/-- The items of a sequence, which is measured first. -/
def elements (v : Operand) : Except Fault (List Operand) :=
  match v.elements? with
  | some items => .ok items
  | none => .error (.notSized v)

/-- The items of a sequence, one after the other. -/
def iterated (v : Operand) : Except Fault (List Operand) :=
  match v.elements? with
  | some items => .ok items
  | none => .error (.notIterable v)

/-- The item at an index, which counts from the end when it is negative. -/
def itemAt (items : List Operand) (i : Int) (refusal : Fault) : Except Fault Operand :=
  let position := if i < 0 then i + items.length else i
  if position < 0 then .error refusal
  else
    match items[position.toNat]? with
    | some item => .ok item
    | none => .error refusal

/-- The item of an operand at an index. A word has no items, so no index is in range. -/
def itemFrom (v : Operand) (i : Int) : Except Fault Operand :=
  match v with
  | .word w => .error (.indexOutOfRange (.word w))
  | v =>
    match v.elements? with
    | some items => itemAt items i (.indexOutOfRange v)
    | none => .error (.notIndexable v)

/-- Two sequences of one kind joined; groups of different brackets do not join. -/
def concat? : Operand → Operand → Option Operand
  | .text s, .text t => some (.text (s ++ t))
  | .bytes a, .bytes b => some (.bytes (a ++ b))
  | .group .square xs, .group .square ys => some (.group .square (xs ++ ys))
  | .group .round xs, .group .round ys => some (.group .round (xs ++ ys))
  | _, _ => none

/-- The items of a list repeated `count` times. -/
def repeatItems {α : Type} (count : Nat) (items : List α) : List α :=
  (List.replicate count items).flatten

/-- The number of bytes that hold every character of a text: one, two or four. -/
def characterWidth (cs : List Char) : Nat :=
  if cs.all (·.toNat < 256) then 1 else if cs.all (·.toNat < 65536) then 2 else 4

/-- A sequence of `length` items, each held in `width` bytes, repeated as often as `count` says,
and built by `make` from the number of copies. A count below zero counts as zero, a result past
the limits is refused, by `overflow` where even its length has no machine word. -/
def repeated (make : Nat → Operand) (length width : Nat) (kind : String) (count : Int)
    (overflow : Fault) : Except Fault Operand :=
  if count < -countLimit ∨ (countLimit : Int) ≤ count then .error (.countOverflow kind)
  else if length = 0 then .ok (make 0)
  else if countLimit ≤ length * count.toNat then .error overflow
  else if addressSpace ≤ width * (length * count.toNat) then .error .tooLong
  else .ok (make count.toNat)

/-- The repetition of a sequence by an integer of a kind; other operands are not repeated. -/
def repeat? (v : Operand) (kind : String) (count : Int) : Option (Except Fault Operand) :=
  match v with
  | .text s =>
    some (repeated (fun n => .text (String.ofList (repeatItems n s.toList))) s.length
      (characterWidth s.toList) kind count (.repetitionOverflow v))
  | .bytes data =>
    some (repeated (fun n => .bytes (repeatItems n data)) data.length 1 kind count
      (.repetitionOverflow v))
  | .group brackets items =>
    some (repeated (fun n => .group brackets (repeatItems n items)) items.length 8 kind count
      .tooLong)
  | _ => none

end TowerFold.Operand
