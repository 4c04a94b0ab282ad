/-!
# Faults of the arithmetic

A calculation ends without a figure in four ways only. They are kept apart
because a caller may tell them apart; nothing else about the failing operation
is remembered.
-/

namespace ExpectedDamage

/-- Why a calculation has no figure. -/
inductive ArithmeticFault where
  /-- A whole number or a quotient lies beyond the largest binary64 number, or a
  whole number was asked of an infinity. -/
  | overflow
  /-- A division by zero. -/
  | zeroDivisor
  /-- A whole number was asked of a value that is not a number. -/
  | notANumber
  /-- A whole number has more digits than a text may have. -/
  | tooLong
  deriving DecidableEq, Repr

end ExpectedDamage
