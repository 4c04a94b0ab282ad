/-!
# Dice expressions

An expression is a row of dice terms and a flat modifier. Counts are whole
numbers without a bound or a sign, because an expression that is being changed
for another casting may leave the range that a reader accepts; `Valid` is that
range.
-/

namespace ExpectedDamage.Dice

/-- Which dice of a term are kept. -/
inductive KeepMode where
  | highest
  | lowest
  deriving DecidableEq, Repr

/-- A rule that keeps some dice of a term and drops the others. -/
structure KeepRule where
  mode : KeepMode
  count : Int
  deriving DecidableEq, Repr

/-- A group of equal dice. -/
structure Term where
  count : Int
  sides : Int
  keep : Option KeepRule
  deriving DecidableEq, Repr

/-- A row of dice terms and a flat modifier. -/
structure Expression where
  terms : List Term
  modifier : Int
  deriving DecidableEq, Repr

namespace Term

/-- The number of dice that count towards the total. -/
def keptCount (t : Term) : Int :=
  match t.keep with
  | some rule => rule.count
  | none => t.count

/-- A term that can be rolled: it has a die and a face, and keeps at least one die
and no more than it has. -/
def Valid (t : Term) : Prop :=
  1 ≤ t.count ∧ 1 ≤ t.sides ∧ ∀ rule ∈ t.keep, 1 ≤ rule.count ∧ rule.count ≤ t.count

instance (t : Term) : Decidable t.Valid := inferInstanceAs (Decidable (_ ∧ _ ∧ _))

end Term

namespace Expression

def isFlat (e : Expression) : Bool := e.terms.isEmpty

/-- An expression that can be rolled and is not nothing. -/
def Valid (e : Expression) : Prop :=
  (∀ t ∈ e.terms, t.Valid) ∧ (e.terms ≠ [] ∨ e.modifier ≠ 0)

instance (e : Expression) : Decidable e.Valid := inferInstanceAs (Decidable (_ ∧ _))

end Expression

end ExpectedDamage.Dice
