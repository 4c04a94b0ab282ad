import ExpectedDamage.Number.Amount
/-!
# Rounding of shown figures

Calculations keep full precision. A figure is rounded once, when a result is
built, and halves are rounded up: `⌊x * 10 ^ d + 1/2⌋ / 10 ^ d`, where the product
and the sum are binary64 operations, the floor is an exact whole number and the
last quotient is rounded once from that whole number.
-/

namespace ExpectedDamage

/-- The amount rounded to a number of decimals, halves up. A negative number of
decimals is made a binary64 number first, and the factor is one too, below one. -/
def roundHalfUp? (value : Amount) (decimals : Int) : Except ArithmeticFault Binary64 := do
  if 0 ≤ decimals then
    let factor : Int := Nat.pow 10 decimals.toNat
    let scaled ← value.scale? factor
    let floor ← (scaled + 0.5).floor?
    Binary64.quotient? floor factor
  else
    let _ ← Binary64.ofInt? decimals
    let factor := Binary64.ofDecimal false 1 decimals
    let x ← value.toReal?
    let floor ← (x * factor + 0.5).floor?
    let whole ← Binary64.ofInt? floor
    if factor.atMost 0 then .error .zeroDivisor else .ok (whole / factor)

/-- Damage is shown with two decimals. -/
def roundDamage? (x : Binary64) : Except ArithmeticFault Binary64 := roundHalfUp? (.real x) 2

/-- A chance as a whole percent, halves up. -/
def percent? (chance : Amount) : Except ArithmeticFault Int := do
  let scaled ← chance.scale? 100
  (scaled + 0.5).floor?

end ExpectedDamage
