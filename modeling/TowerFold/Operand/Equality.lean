import TowerFold.Operand.RawArithmetic

/-!
# Equality between kinds

A field element compares itself with what its field coerces: an integer, a word or a
group by the element it stands for. Elements of the two extensions are never equal to each
other. A group that cannot be coerced is a fault, not an inequality. An irregular element
compares what its class keeps, coordinate by coordinate.
-/

namespace TowerFold

/-- Whether two representatives are equal. A grid is compared entry by entry after broadcasting,
and the comparison is only true or false for a single entry. -/
def Representative.equals (r s : Representative) : Except Fault Bool :=
  let single (g : Grid Bool) : Except Fault Bool :=
    if g.count = 1 then .ok (g.items.headD false) else .error (.ambiguous g.count)
  match r, s with
  | .residue x, .residue y => .ok (decide (x = y))
  | .residue x, .word w | .word w, .residue x => .ok (x.val == w.toNat)
  | .word w, .word w' => .ok (w == w')
  | .text s, .text t => .ok (s == t)
  | .bytes a, .bytes b => .ok (a == b)
  | .grid g, .grid h => do single (← Grid.zipWith (· == ·) g h)
  | .grid g, .word w | .word w, .grid g => single ⟨g.axes, fun index => g.entry index == w⟩
  | .grid g, .residue x | .residue x, .grid g =>
    single ⟨g.axes, fun index => (g.entry index).toNat == x.val⟩
  | .grid g, _ | _, .grid g => single ⟨g.axes, fun _ => false⟩
  | _, _ => .ok false

/-- Whether coordinates are equal, which are compared up to the first difference. -/
def RawElement.equalCoords : List Representative → List Representative → Except Fault Bool
  | r :: rs, s :: ss => do
    if ← r.equals s then equalCoords rs ss else return false
  | _, _ => .ok true

/-- How an element compares itself by what its class keeps; `none` when it leaves the comparison to
the other side. A word is to it the number it is. -/
def RawElement.judge? (x : RawElement) (v : Operand) : Option (Except Fault Bool) :=
  let number : Operand := match v with
    | .word w => .int w.toNat
    | v => v
  match x, number with
  | .base r, v => v.scalar?.map r.equals
  | .complex x, v =>
    match v with
    | .int _ | .bool _ | .m31 _ | .cm31 _ | .group _ _ | .irregular ⟨.base _, _⟩
    | .irregular ⟨.complex _, _⟩ =>
      some do equalCoords (complex x).coords (complex (← v.complexCoords)).coords
    | _ => none
  | .quartic x, v =>
    match v with
    | .int _ | .bool _ | .m31 _ | .qm31 _ | .group _ _ | .irregular ⟨.base _, _⟩
    | .irregular ⟨.quartic _, _⟩ =>
      some do equalCoords (quartic x).coords (quartic (← v.quarticCoords)).coords
    | _ => none

namespace Operand

/-- How an element of a field, which has these coordinates, compares itself with what is coerced: to
an element of the field, or to an irregular one. -/
def judgeCoerced {F : Type} [DecidableEq F] (x : F) (coords : List Representative)
    (coerced : Except Fault F) : Except Fault Bool :=
  match coerced with
  | .ok y => .ok (decide (x = y))
  | .error (.irregular y) => RawElement.equalCoords coords y.element.coords
  | .error fault => .error fault

/-- How an element compares itself with another operand; `none` when it leaves the comparison to the
other side. -/
def judge? : Operand → Operand → Option (Except Fault Bool)
  | .m31 x, .word w => some (.ok (decide (x = .ofNat w.toNat)))
  | .cm31 x, .word w => some (.ok (decide (x = .ofM31 (.ofNat w.toNat))))
  | .qm31 x, .word w => some (.ok (decide (x = .ofM31 (.ofNat w.toNat))))
  | .m31 x, .irregular ⟨.base r, _⟩ => some (Representative.equals (.residue x) r)
  | .m31 x, y => y.toM31?.map fun y => .ok (decide (x = y))
  | .cm31 x, y =>
    match y with
    | .int _ | .bool _ | .m31 _ | .cm31 _ | .group _ _ | .irregular ⟨.base _, _⟩
    | .irregular ⟨.complex _, _⟩ =>
      some (judgeCoerced x (x.coords.map .residue) (CM31.ofOperand y))
    | _ => none
  | .qm31 x, y =>
    match y with
    | .int _ | .bool _ | .m31 _ | .qm31 _ | .group _ _ | .irregular ⟨.base _, _⟩
    | .irregular ⟨.quartic _, _⟩ =>
      some (judgeCoerced x (x.coords.map .residue) (QM31.ofOperand y))
    | _ => none
  | .irregular x, y => x.element.judge? y
  | _, _ => none

/-- Equality of two operands that are neither field elements nor groups. Numbers of
different kinds are equal when they are the same number. -/
def plainEqual (x y : Operand) : Bool :=
  match x, y with
  | .text s, .text t => s == t
  | .bytes a, .bytes b => a == b
  | .nothing, .nothing => true
  | .grid g, .grid h => g.axes == h.axes && g.items == h.items
  | .strategy i _, .strategy j _ => i == j
  | x, y =>
    match x.toIndex?, y.toIndex? with
    | some m, some n => m == n
    | _, _ => false

mutual

/-- Whether two operands are equal. Groups of the same brackets are compared item by
item up to the first difference, lists only when they have as many items, tuples as far
as the shorter one reaches; otherwise the left operand judges, or else the right one. -/
def equals : Operand → Operand → Except Fault Bool
  | .group .square xs, .group .square ys =>
    if xs.length = ys.length then equalItems xs ys else .ok false
  | .group .round xs, .group .round ys => do
    return (← equalItems xs ys) && xs.length = ys.length
  | .group _ _, .group _ _ => .ok false
  | x, y =>
    match x.judge? y with
    | some verdict => verdict
    | none =>
      match y.judge? x with
      | some verdict => verdict
      | none => .ok (plainEqual x y)

/-- Whether two lists of operands are equal item by item, as far as both reach. -/
def equalItems : List Operand → List Operand → Except Fault Bool
  | x :: xs, y :: ys => do
    if ← x.equals y then equalItems xs ys else return false
  | _, _ => .ok true

end

/-- Whether two operands differ: the negation of equality, with the same faults. -/
def differs (x y : Operand) : Except Fault Bool := do
  return !(← x.equals y)

end Operand

end TowerFold
