import FormulaDiagram.Numeric.Decimal

/-!
The arithmetic that geometry and layout are written over. The program computes with values of 32 bits; the
same definitions read over the rational numbers say what it would draw if nothing were rounded.
-/

namespace FormulaDiagram

/-- Numbers that can be added, scaled and compared. -/
class Scalar (α : Type) extends Add α, Sub α, Mul α, Div α, LE α, LT α, Min α, Max α where
  ofNat : Nat → α
  isFinite : α → Bool
  decidableLE (a b : α) : Decidable (a ≤ b)
  decidableLT (a b : α) : Decidable (a < b)

namespace Scalar

variable {α : Type} [Scalar α]

instance (a b : α) : Decidable (a ≤ b) := decidableLE a b

instance (a b : α) : Decidable (a < b) := decidableLT a b

def zero : α := ofNat 0

/-- The quotient of two natural numbers. -/
def ratio (m n : Nat) : α := (ofNat m : α) / ofNat n

/-- Half of a number. -/
def half (a : α) : α := a / ofNat 2

/-- Twice a number. -/
def double (a : α) : α := ofNat 2 * a

end Scalar

instance : Scalar Single where
  ofNat := Binary.ofNat
  isFinite := Binary.isFinite
  decidableLE := inferInstance
  decidableLT := inferInstance

/-- Exact arithmetic: every rational number is finite, and dividing by zero gives zero. -/
instance : Scalar Rat where
  min a b := if b < a then b else a
  max a b := if a < b then b else a
  ofNat n := n
  isFinite _ := true
  decidableLE := inferInstance
  decidableLT := inferInstance

end FormulaDiagram
