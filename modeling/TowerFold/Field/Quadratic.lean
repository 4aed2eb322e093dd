/-!
# Quadratic extensions

`Quadratic F r` adjoins to `F` a root `w` of `w² = r`. Sums are taken by coordinates,
products by `w² = r`, and an inverse divides the conjugate by the norm.
-/

namespace TowerFold

/-- The element `re + im · w`, where `w² = r`. -/
@[ext]
structure Quadratic (F : Type) (r : F) where
  /-- The coordinate of one. -/
  re : F
  /-- The coordinate of `w`. -/
  im : F
  deriving DecidableEq

namespace Quadratic

variable {F : Type} {r : F}

/-- The copy of the smaller field in the extension. -/
def embed [Zero F] (a : F) : Quadratic F r := ⟨a, 0⟩

instance [Zero F] : Zero (Quadratic F r) := ⟨⟨0, 0⟩⟩
instance [Zero F] [One F] : One (Quadratic F r) := ⟨⟨1, 0⟩⟩
instance [Add F] : Add (Quadratic F r) := ⟨fun x y => ⟨x.re + y.re, x.im + y.im⟩⟩
instance [Neg F] : Neg (Quadratic F r) := ⟨fun x => ⟨-x.re, -x.im⟩⟩
instance [Sub F] : Sub (Quadratic F r) := ⟨fun x y => ⟨x.re - y.re, x.im - y.im⟩⟩
instance [Add F] [Mul F] : Mul (Quadratic F r) :=
  ⟨fun x y => ⟨x.re * y.re + r * (x.im * y.im), x.re * y.im + x.im * y.re⟩⟩

/-- The norm `(re + im · w)(re − im · w)`, which lies in the smaller field. -/
def norm [Sub F] [Mul F] (x : Quadratic F r) : F :=
  x.re * x.re - r * (x.im * x.im)

/-- The inverse, given how the smaller field inverts: the conjugate over the norm.
An element whose norm cannot be inverted has none. -/
def inverseBy? [Sub F] [Mul F] [Neg F] (inverse? : F → Option F) (x : Quadratic F r) :
    Option (Quadratic F r) :=
  (inverse? x.norm).map fun n => ⟨x.re * n, -x.im * n⟩

@[simp] theorem re_zero [Zero F] : (0 : Quadratic F r).re = 0 := rfl
@[simp] theorem im_zero [Zero F] : (0 : Quadratic F r).im = 0 := rfl
@[simp] theorem re_one [Zero F] [One F] : (1 : Quadratic F r).re = 1 := rfl
@[simp] theorem im_one [Zero F] [One F] : (1 : Quadratic F r).im = 0 := rfl
@[simp] theorem re_embed [Zero F] (a : F) : (embed a : Quadratic F r).re = a := rfl
@[simp] theorem im_embed [Zero F] (a : F) : (embed a : Quadratic F r).im = 0 := rfl
@[simp] theorem re_add [Add F] (x y : Quadratic F r) : (x + y).re = x.re + y.re := rfl
@[simp] theorem im_add [Add F] (x y : Quadratic F r) : (x + y).im = x.im + y.im := rfl
@[simp] theorem re_neg [Neg F] (x : Quadratic F r) : (-x).re = -x.re := rfl
@[simp] theorem im_neg [Neg F] (x : Quadratic F r) : (-x).im = -x.im := rfl
@[simp] theorem re_sub [Sub F] (x y : Quadratic F r) : (x - y).re = x.re - y.re := rfl
@[simp] theorem im_sub [Sub F] (x y : Quadratic F r) : (x - y).im = x.im - y.im := rfl
@[simp] theorem re_mul [Add F] [Mul F] (x y : Quadratic F r) :
    (x * y).re = x.re * y.re + r * (x.im * y.im) := rfl
@[simp] theorem im_mul [Add F] [Mul F] (x y : Quadratic F r) :
    (x * y).im = x.re * y.im + x.im * y.re := rfl

end Quadratic

end TowerFold
