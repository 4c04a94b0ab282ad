import ExpectedDamage.Combat.Chance
/-!
# Expected damage of a weapon attack

A critical hit is taken as one and a half times the damage of a hit, because dice
double and flat bonuses do not, with the average of its extra dice and its flat
bonus on top.
-/

namespace ExpectedDamage.Combat

structure Attack (α : Type) where
  bonus : Int
  /-- The average damage of a hit. -/
  damage : α
  edge : Edge := .none
  /-- The lowest natural roll that is a critical hit. -/
  critRange : Int := 20
  /-- The extra dice of a critical hit, which average 3.5. -/
  critDice : Int := 0
  /-- The flat damage that a critical hit adds. -/
  critDamage : α

namespace Attack

variable {α : Type} [Figure α]

/-- The expected damage of one attack against an armor class. -/
def expectedDamage? (a : Attack α) (targetArmor : Int) : Except ArithmeticFault α := do
  let hit := hitChance a.bonus targetArmor a.edge
  let crit ← critChance? a.critRange a.edge
  let dice ← Figure.ofInt? a.critDice
  let hitDamage := (hit - crit) * a.damage
  let critDamage := crit * (a.damage * 1.5 + dice * 3.5 + a.critDamage)
  return hitDamage + critDamage

end Attack

end ExpectedDamage.Combat
