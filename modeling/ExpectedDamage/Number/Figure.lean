import ExpectedDamage.Number.Binary64
/-!
# Carriers of the damage formulas

The formulas are sums and products of chances and averages. They are written
once, over any `Figure`: the binary64 numbers, in which the figures are shown,
and the rationals, in which they are exact. A quotient of whole numbers is the
one operation that can fail, and only in a carrier with a largest number.
-/

namespace ExpectedDamage

/-- A carrier in which the damage formulas can be read. -/
class Figure (α : Type) extends Add α, Sub α, Mul α, Div α, OfScientific α where
  /-- The figure nearest to the quotient of two whole numbers, the second not zero. -/
  quotient : Int → Int → α
  /-- Whether a quotient came out too large for the carrier. -/
  overflowed : α → Bool
  /-- The order of the carrier. -/
  atMost : α → α → Bool

namespace Figure

variable {α : Type} [Figure α]

/-- The quotient of two whole numbers, refused if it has no figure. -/
def quotient? (n d : Int) : Except ArithmeticFault α :=
  if d = 0 then .error .zeroDivisor
  else if overflowed (quotient n d : α) then .error .overflow
  else .ok (quotient n d)

/-- A whole number as a figure. -/
def ofInt? (n : Int) : Except ArithmeticFault α := quotient? n 1

/-- The sum of a list, taken from the left. -/
def total (xs : List α) : α := xs.foldl (· + ·) 0.0

end Figure

instance : Figure Binary64 where
  quotient := Binary64.quotient
  overflowed := Binary64.isInfinite
  atMost := Binary64.atMost

instance : Figure Rat where
  quotient := Rat.divInt
  overflowed _ := false
  atMost x y := x ≤ y

end ExpectedDamage
