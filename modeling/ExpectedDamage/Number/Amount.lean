import ExpectedDamage.Number.Binary64
/-!
# Amounts as entered

A number in a record or an argument is either a whole number, kept exactly
however large, or a binary64 number. The difference shows beyond `2 ^ 53`, so an
amount stays what it was until a formula needs a binary64 number.
-/

namespace ExpectedDamage

/-- A number as entered. -/
inductive Amount where
  | whole (n : Int)
  | real (x : Binary64)
  deriving DecidableEq, Repr

namespace Amount

/-- The nearest binary64 number. -/
def toReal? : Amount → Except ArithmeticFault Binary64
  | .whole n => Binary64.ofInt? n
  | .real x => .ok x

/-- The amount times a whole number. A whole amount is multiplied exactly. -/
def scale? (a : Amount) (factor : Int) : Except ArithmeticFault Binary64 :=
  match a with
  | .whole n => Binary64.ofInt? (n * factor)
  | .real x => (x * ·) <$> Binary64.ofInt? factor

/-- The amount raised by a whole number, exactly if it is whole. -/
def raise (a : Amount) (k : Nat) : Amount :=
  match a with
  | .whole n => .whole (n + k)
  | .real x => .real (x + Binary64.quotient k 1)

/-- Whether the amount is at most a binary64 number; both are compared exactly. -/
def atMost : Amount → Binary64 → Bool
  | .whole n, .finite s g _ => n * Binary64.grainsPerUnit ≤ Binary64.signedGrains s g
  | .whole _, .infinite negative => !negative
  | .whole _, .notANumber => false
  | .real x, y => x.atMost y

def isPositive : Amount → Bool
  | .whole n => 0 < n
  | .real x => (0 : Binary64) < x

/-- The quotient of two amounts: of two whole ones the nearest number to the
exact quotient, otherwise that of the nearest binary64 numbers. -/
def div? : Amount → Amount → Except ArithmeticFault Binary64
  | .whole n, .whole d => Binary64.quotient? n d
  | a, b => do
    let x ← a.toReal?
    let y ← b.toReal?
    if y.atMost 0 && (0 : Binary64).atMost y then .error .zeroDivisor else .ok (x / y)

end Amount

end ExpectedDamage
