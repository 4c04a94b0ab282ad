import ExpectedDamage.Number.Figure
/-!
# Chances of a d20

An attack roll hits on a natural 20 and misses on a natural 1, whatever the
bonus; a saving throw turns this around. So a chance of a single roll is a number of
twentieths, kept between one and nineteen of them. A critical hit is different:
its chance comes from the range of natural rolls alone.
-/

namespace ExpectedDamage.Combat

/-- How a d20 is rolled. -/
inductive Edge where
  /-- Once. -/
  | none
  /-- Twice, and the higher roll counts. -/
  | advantage
  /-- Twice, and the lower roll counts. -/
  | disadvantage
  deriving DecidableEq, Repr

namespace Edge

def ofFlags (hasAdvantage hasDisadvantage : Bool) : Edge :=
  match hasAdvantage, hasDisadvantage with
  | true, false => advantage
  | false, true => disadvantage
  | _, _ => none

/-- The chance of success from the chance of a single roll. -/
def apply {α : Type} [Figure α] (e : Edge) (chance : α) : α :=
  match e with
  | none => chance
  | advantage => 1.0 - (1.0 - chance) * (1.0 - chance)
  | disadvantage => chance * chance

end Edge

variable {α : Type} [Figure α]

def twentieths (n : Int) : α := Figure.quotient n 20

def singleHitChance (attackBonus targetArmor : Int) : α :=
  let needed := targetArmor - attackBonus
  if needed ≤ 1 then 0.95
  else if 20 ≤ needed then 0.05
  else twentieths (21 - needed)

def hitChance (attackBonus targetArmor : Int) (edge : Edge) : α :=
  edge.apply (singleHitChance attackBonus targetArmor)

/-- The chance of a critical hit, from the lowest natural roll that is one. -/
def critChance? (critRange : Int) (edge : Edge) : Except ArithmeticFault α :=
  edge.apply <$> Figure.quotient? (21 - critRange) 20

/-- The chance that a target fails its saving throw. -/
def saveFailChance (difficulty saveBonus : Int) : α :=
  let needed := difficulty - saveBonus
  if needed ≤ 1 then 0.05
  else if 20 ≤ needed then 0.95
  else twentieths (needed - 1)

end ExpectedDamage.Combat
