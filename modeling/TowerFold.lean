import TowerFold.Main
import TowerFold.Fold.Window
import TowerFold.Operand.Bytes
import TowerFold.Packed.Nested
import TowerFold.Proofs.Field.Extension
import TowerFold.Proofs.PowerOfTwo
import TowerFold.Proofs.Fold.Sizes
import TowerFold.Proofs.Fold.Weights
import TowerFold.Proofs.Operand.Arithmetic
import TowerFold.Proofs.RingEmbedding
import TowerFold.Proofs.Fold.ClosedForm
import TowerFold.Proofs.Fold.Forked
import TowerFold.Proofs.Strategy.Dispatch
import TowerFold.Proofs.Strategy.Forked
import TowerFold.Proofs.Packed.Element
import TowerFold.Proofs.Fold.Layers
import TowerFold.Proofs.Packed.Conversion
import TowerFold.Proofs.Strategy.Layered
import TowerFold.Proofs.Strategy.Selection
import TowerFold.Proofs.Field.Inverse
import TowerFold.Proofs.Field.Order
import TowerFold.Proofs.Field.Quotient
import TowerFold.Proofs.Operand.Elements
import TowerFold.Proofs.Operand.Ring
import TowerFold.Proofs.Fold.Halves
import TowerFold.Proofs.Operand.Field
import TowerFold.Proofs.Operand.Power
import TowerFold.Proofs.Operand.Exponents
import TowerFold.Proofs.Operand.Refusal
import TowerFold.Proofs.Operand.Sides
import TowerFold.Proofs.Operand.Coercion
import TowerFold.Proofs.Operand.Difference
import TowerFold.Proofs.Operand.Equality
import TowerFold.Proofs.Operand.HashKey
import TowerFold.Proofs.Field.Bytes
import TowerFold.Proofs.Operand.Bytes
import TowerFold.Proofs.Operand.Promotion
import TowerFold.Proofs.Fold.Promotion
import TowerFold.Proofs.Operand.Faults
import TowerFold.Proofs.Fold.Faults
import TowerFold.Proofs.Fold.Window
import TowerFold.Proofs.Strategy.Refusal
import TowerFold.Proofs.Fold.Precedence
import TowerFold.Proofs.Fold.Permutation
import TowerFold.Proofs.Operand.Slice
import TowerFold.Proofs.Packed.Broadcast
import TowerFold.Proofs.Packed.Columns
import TowerFold.Proofs.Packed.Kernel
import TowerFold.Proofs.Benchmark
import TowerFold.Proofs.Fold.Rounds
import TowerFold.Proofs.Fold.Multilinear
import TowerFold.Proofs.Fold.Recovery
import TowerFold.Proofs.Packed.Rows
import TowerFold.Proofs.Packed.Wrapping
import TowerFold.Proofs.Fold.Outcomes
import TowerFold.Proofs.Operand.Steps
import TowerFold.Proofs.Packed.Rounds
