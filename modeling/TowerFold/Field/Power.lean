/-!
# Powers by squaring

`power base n` multiplies `n` copies of `base` with one squaring per binary digit
of `n`. It asks for nothing but a product and a one, so every field of the tower
shares it.
-/

namespace TowerFold

/-- `acc` times the `n`-fold product of `base`: the lowest binary digit of `n` says
whether `base` itself is a factor, the others act on its square. -/
def powerFrom {α : Type} [Mul α] (acc base : α) (n : Nat) : α :=
  if n = 0 then acc
  else powerFrom (if n % 2 = 1 then acc * base else acc) (base * base) (n / 2)
termination_by n

/-- The `n`-fold product of `base`, one for `n = 0`. -/
def power {α : Type} [Mul α] [One α] (base : α) (n : Nat) : α :=
  powerFrom 1 base n

end TowerFold
