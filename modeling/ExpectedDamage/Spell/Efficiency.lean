import ExpectedDamage.Number.Rounding
import ExpectedDamage.Record.Value
/-!
# Damage for what it costs

Damage is held against two measures: a cantrip that costs nothing, at the level of
the caster, and a typical damage of a spell of the level. Ratios are compared
before they are rounded.
-/

namespace ExpectedDamage.Spell

open Record

def cantripDice (casterLevel : Int) : Nat :=
  if 17 ≤ casterLevel then 4
  else if 11 ≤ casterLevel then 3
  else if 5 ≤ casterLevel then 2
  else 1

/-- The expected damage of a cantrip of ten-sided dice. -/
def cantripDamage (casterLevel : Int) : Binary64 :=
  Binary64.quotient (cantripDice casterLevel) 1 * 5.5 * 0.65

/-- Damage held against a cantrip. -/
structure CantripComparison where
  cantripDamage : Binary64
  ratio : Binary64
  worthSlot : Bool
  deriving DecidableEq, Repr

def compareToCantrip? (damage : Amount) (casterLevel : Int) :
    Except ArithmeticFault CantripComparison := do
  let cantrip := cantripDamage casterLevel
  let ratio := (← damage.toReal?) / cantrip
  return ⟨← roundDamage? cantrip, ← roundDamage? ratio, 1.5 < ratio⟩

/-- How good the damage of a slot is. -/
inductive Rating where
  | excellent
  | good
  | average
  | poor
  deriving DecidableEq, Repr

def Rating.name : Rating → String
  | excellent => "excellent"
  | good => "good"
  | average => "average"
  | poor => "poor"

def Rating.ofRatio (ratio : Binary64) : Rating :=
  if (1.3 : Binary64) ≤ ratio then excellent
  else if (1.0 : Binary64) ≤ ratio then good
  else if (0.7 : Binary64) ≤ ratio then average
  else poor

def typicalDamage : List (Int × Int) :=
  [(0, 5), (1, 12), (2, 18), (3, 28), (4, 35), (5, 45), (6, 55), (7, 65), (8, 75), (9, 90)]

/-- The typical damage of a spell of a level, ten if no spell has that level. -/
def typicalDamageOf (level : Int) : Int :=
  ((typicalDamage.find? (·.1 == level)).map Prod.snd).getD 10

/-- The rating of damage at a slot level. -/
structure SlotRating where
  rating : Rating
  score : Binary64
  deriving DecidableEq, Repr

def rateSlot? (damage : Amount) (level : Int) : Except ArithmeticFault SlotRating := do
  let ratio ← damage.div? (.whole (typicalDamageOf level))
  return ⟨Rating.ofRatio ratio, ← roundDamage? ratio⟩

def CantripComparison.dump (c : CantripComparison) : Value :=
  .object
    [("cantrip_damage", .real c.cantripDamage), ("ratio", .real c.ratio),
     ("worth_slot", .bool c.worthSlot)]

def SlotRating.dump (r : SlotRating) : Value :=
  .object [("rating", .text r.rating.name), ("score", .real r.score)]

end ExpectedDamage.Spell
