/-!
# Residues in machine words

Arithmetic modulo `2³¹ − 1` on 64-bit words. Sums, differences and products wrap modulo
`2⁶⁴` before they are reduced, so they are exact only where nothing wraps.
-/

namespace TowerFold.Word

/-- The modulus of the base field in a machine word. -/
def modulus64 : UInt64 := 2147483647

/-- The reduced sum. -/
def add (x y : UInt64) : UInt64 := (x + y) % modulus64

/-- The reduced difference; the modulus is added first, to stay above zero. -/
def sub (x y : UInt64) : UInt64 := (x + modulus64 - y) % modulus64

/-- The reduced product. -/
def mul (x y : UInt64) : UInt64 := (x * y) % modulus64

/-- The product `(a₀ + a₁·i)(b₀ + b₁·i)` with `i² = −1`, by coordinates. -/
def complexMul (a₀ a₁ b₀ b₁ : UInt64) : UInt64 × UInt64 :=
  (sub (mul a₀ b₀) (mul a₁ b₁), add (mul a₀ b₁) (mul a₁ b₀))

end TowerFold.Word
