import Mathlib.Algebra.Ring.Int.Defs
import Mathlib.Data.List.Forall2
import TowerFold.Proofs.Operand.Arithmetic

/-!
# Embeddings into a ring

Four of the embeddings put values into a commutative ring: the exact integers or one of the
three fields. Sums and products of their elements as operands are those of the ring, and
an admitted operand on the right of a product counts as the element it is embedded as, in
whatever form it comes.
-/

namespace TowerFold

/-- What each item of a list is related to makes a list that is related item by item. -/
theorem exists_forall₂ {α β : Type} {related : α → β → Prop} {items : List α}
    (hitems : ∀ a ∈ items, ∃ b, related a b) : ∃ others, List.Forall₂ related items others := by
  induction items with
  | nil => exact ⟨[], .nil⟩
  | cons a items ih =>
    obtain ⟨⟨b, hb⟩, hrest⟩ := List.forall_mem_cons.mp hitems
    obtain ⟨others, hothers⟩ := ih hrest
    exact ⟨b :: others, .cons hb hothers⟩

/-- An operand that counts as an element of the base field. -/
inductive Operand.IsScalar : Operand → Prop
  | int (n : ℤ) : IsScalar (.int n)
  | bool (b : Bool) : IsScalar (.bool b)
  | m31 (x : M31) : IsScalar (.m31 x)

/-- The operands that are numbers: scalars and elements of the two extensions. -/
inductive Operand.IsNumber : Operand → Prop
  | scalar {v : Operand} (hv : v.IsScalar) : IsNumber v
  | complex (x : CM31) : IsNumber (.cm31 x)
  | quartic (x : QM31) : IsNumber (.qm31 x)

/-- A scalar is a residue. -/
theorem Operand.IsScalar.toM31?_eq {v : Operand} (hv : v.IsScalar) : ∃ k, v.toM31? = some k := by
  cases hv with
  | int n => exact ⟨_, rfl⟩
  | bool b => exact ⟨_, rfl⟩
  | m31 x => exact ⟨_, rfl⟩

/-- An embedding into a commutative ring. -/
inductive RingEmbedding
  /-- Into the exact integers. -/
  | integer
  /-- Into the base field. -/
  | m31
  /-- Into the complex extension. -/
  | cm31
  /-- Into the extension of degree four. -/
  | qm31

namespace RingEmbedding

/-- The embedding of leaves. -/
def toEmbedding : RingEmbedding → Embedding
  | integer => .integer
  | m31 => .m31
  | cm31 => .cm31
  | qm31 => .qm31

/-- The ring into which values are put. -/
def Carrier : RingEmbedding → Type
  | integer => ℤ
  | m31 => M31
  | cm31 => CM31
  | qm31 => QM31

instance : (e : RingEmbedding) → CommRing e.Carrier
  | integer => inferInstanceAs (CommRing ℤ)
  | m31 => inferInstanceAs (CommRing M31)
  | cm31 => inferInstanceAs (CommRing CM31)
  | qm31 => inferInstanceAs (CommRing QM31)

/-- An element of the ring as an operand. -/
def put : (e : RingEmbedding) → e.Carrier → Operand
  | integer, (n : ℤ) => .int n
  | m31, (x : M31) => .m31 x
  | cm31, (x : CM31) => .cm31 x
  | qm31, (x : QM31) => .qm31 x

/-- The operands that can be values and factors in a ring: integers and truth values
everywhere, base-field elements in every field, and in an extension its own elements and
groups of as many scalars as it has coordinates. -/
inductive Admits : RingEmbedding → Operand → Prop
  | int (e : RingEmbedding) (n : ℤ) : Admits e (.int n)
  | bool (e : RingEmbedding) (b : Bool) : Admits e (.bool b)
  | base (x : M31) : Admits m31 (.m31 x)
  | baseInComplex (x : M31) : Admits cm31 (.m31 x)
  | baseInQuartic (x : M31) : Admits qm31 (.m31 x)
  | complex (x : CM31) : Admits cm31 (.cm31 x)
  | quartic (x : QM31) : Admits qm31 (.qm31 x)
  | pair (b : Brackets) {a₀ a₁ : Operand} (h₀ : a₀.IsScalar) (h₁ : a₁.IsScalar) :
    Admits cm31 (.group b [a₀, a₁])
  | quadruple (b : Brackets) {a₀ a₁ a₂ a₃ : Operand} (h₀ : a₀.IsScalar) (h₁ : a₁.IsScalar)
    (h₂ : a₂.IsScalar) (h₃ : a₃.IsScalar) : Admits qm31 (.group b [a₀, a₁, a₂, a₃])

/-- An admitted operand stands for the element as which it is embedded. -/
structure Denotes (e : RingEmbedding) (v : Operand) (x : e.Carrier) : Prop where
  admits : e.Admits v
  apply_eq : e.toEmbedding.apply v = .ok (e.put x)

variable {e : RingEmbedding} {v : Operand}

/-- Every admitted operand is embedded as an element of the ring. -/
theorem Admits.exists_apply_eq (hv : e.Admits v) :
    ∃ x, e.toEmbedding.apply v = .ok (e.put x) := by
  cases hv with
  | int _ n => cases e <;> exact ⟨_, rfl⟩
  | bool _ b => cases e <;> exact ⟨_, rfl⟩
  | base x => exact ⟨x, rfl⟩
  | baseInComplex x => exact ⟨_, rfl⟩
  | baseInQuartic x => exact ⟨_, rfl⟩
  | complex x => exact ⟨x, rfl⟩
  | quartic x => exact ⟨x, rfl⟩
  | pair b h₀ h₁ =>
    obtain ⟨k₀, hk₀⟩ := h₀.toM31?_eq
    obtain ⟨k₁, hk₁⟩ := h₁.toM31?_eq
    exact ⟨CM31.ofCoords k₀ k₁,
      Embedding.cm31_apply_eq_ok_iff.mpr (CM31.ofOperand_group b hk₀ hk₁)⟩
  | quadruple b h₀ h₁ h₂ h₃ =>
    obtain ⟨k₀, hk₀⟩ := h₀.toM31?_eq
    obtain ⟨k₁, hk₁⟩ := h₁.toM31?_eq
    obtain ⟨k₂, hk₂⟩ := h₂.toM31?_eq
    obtain ⟨k₃, hk₃⟩ := h₃.toM31?_eq
    exact ⟨QM31.ofCoords k₀ k₁ k₂ k₃,
      Embedding.qm31_apply_eq_ok_iff.mpr (QM31.ofOperand_group b hk₀ hk₁ hk₂ hk₃)⟩

/-- Admitted operands stand for elements, one each. -/
theorem exists_forall₂_denotes {operands : List Operand} (hadmits : ∀ v ∈ operands, e.Admits v) :
    ∃ xs, List.Forall₂ e.Denotes operands xs := by
  refine exists_forall₂ fun v hv => ?_
  obtain ⟨x, hx⟩ := (hadmits v hv).exists_apply_eq
  exact ⟨x, hadmits v hv, hx⟩

/-- Operands that stand for elements are embedded as them. -/
theorem mapM_apply_of_forall₂_denotes {operands : List Operand} {xs : List e.Carrier}
    (hdenotes : List.Forall₂ e.Denotes operands xs) :
    operands.mapM e.toEmbedding.apply = .ok (xs.map e.put) :=
  mapM_of_forall₂ (List.forall₂_map_right_iff.mpr (hdenotes.imp fun _ _ hv => hv.apply_eq))

/-- Zero is embedded as the zero of the ring. -/
theorem apply_zero (e : RingEmbedding) : e.toEmbedding.apply (.int 0) = .ok (e.put 0) := by
  cases e <;> rfl

/-- One is embedded as the one of the ring. -/
theorem apply_one (e : RingEmbedding) : e.toEmbedding.apply (.int 1) = .ok (e.put 1) := by
  cases e <;> rfl

/-- A sum in the ring. -/
theorem put_add (x y : e.Carrier) : (e.put x).add (e.put y) = .ok (e.put (x + y)) := by
  cases e with
  | integer => exact Operand.add_of_toInt? rfl rfl
  | m31 => exact Operand.m31_add x rfl
  | cm31 => exact Operand.cm31_add x (.of_cm31 (v := .cm31 y) rfl)
  | qm31 => exact Operand.qm31_add x (.of_qm31 (v := .qm31 y) rfl)

/-- A product in the ring, with an operand that stands for the right element. -/
theorem put_mul (x : e.Carrier) {y : e.Carrier} (hv : e.Denotes v y) :
    (e.put x).mul v = .ok (e.put (x * y)) := by
  obtain ⟨hv, hy⟩ := hv
  cases e with
  | integer =>
    cases hv with
    | int _ n =>
      cases hy
      exact Operand.mul_of_toInt? rfl rfl
    | bool _ b =>
      cases hy
      exact Operand.mul_of_toInt? rfl rfl
  | m31 =>
    cases hv with
    | int _ n =>
      cases hy
      exact Operand.m31_mul x rfl
    | bool _ b =>
      cases hy
      exact Operand.m31_mul x rfl
    | base y =>
      cases hy
      exact Operand.m31_mul x rfl
  | cm31 =>
    exact Operand.cm31_mul_of_ok x (Embedding.cm31_apply_eq_ok_iff.mp hy)
  | qm31 =>
    exact Operand.qm31_mul_of_ok x (Embedding.qm31_apply_eq_ok_iff.mp hy)

end RingEmbedding

end TowerFold
