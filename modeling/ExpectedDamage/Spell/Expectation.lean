import ExpectedDamage.Combat.Chance
import ExpectedDamage.Combat.Context
import ExpectedDamage.Spell.Correction
/-!
# Expected damage of a spell

The formulas of an analysis, from the average roll to the total over all targets,
in any carrier of figures. How a spell takes effect is decided by its record and
the context before any figure is computed (`Resolution`).
-/

namespace ExpectedDamage.Spell

open Combat (Context)

/-- How a spell takes effect on a target. -/
inductive Resolution where
  | attack (bonus armor : Int)
  /-- By a failed saving throw; half the damage may remain on a success. -/
  | save (difficulty bonus : Int) (half : Bool)
  /-- Always. -/
  | sure
  deriving DecidableEq, Repr

/-- The resolution of a spell in a context. An attack roll goes before a saving throw. -/
def resolution (s : Spell) (context : Context) : Resolution :=
  if s.attackRoll then .attack context.attackBonus context.targetArmor
  else if isGiven s.savingThrow then
    .save context.saveDifficulty (context.targetSaves.bonusFor s.savingThrow)
      (Text.contains "half as much damage" s.wording)
  else .sure

namespace Resolution

variable {α : Type} [Figure α]

/-- The chance that the spell takes its full effect. -/
def chance : Resolution → α
  | attack bonus armor => Combat.hitChance bonus armor .none
  | save difficulty bonus _ => Combat.saveFailChance difficulty bonus
  | sure => 1.0

def leavesHalf : Resolution → Bool
  | save _ _ half => half
  | _ => false

/-- The expected damage to one target. A critical hit, one attack in twenty, adds
another average roll. -/
def expected (r : Resolution) (average : α) : α :=
  let full := average * r.chance
  match r with
  | attack .. => full + average * 0.05
  | save _ _ half => if half then full + average * (1.0 - r.chance) * 0.5 else full
  | sure => full

end Resolution

variable {α : Type} [Figure α]

/-- The expected damage of a chain, whose links are new attacks: the sum of a geometric
series, zero if the series has none. -/
def chainBonus (average chainChance chance : α) : α :=
  let step := chainChance * chance
  if Figure.atMost 1.0 step then 0.0
  else average * (1.0 + 0.05) * step / (1.0 - step)

/-- The figures of an analysis, before any is rounded. -/
structure Figures (α : Type) where
  average : α
  chance : α
  /-- The expected damage to one target. -/
  expected : α
  /-- What the chain adds, if there is one. -/
  chain : Option α
  /-- The expected damage to all targets. -/
  total : α

def figures? (r : Resolution) (average : α) (targets : Int) (chain : Option Chain) :
    Except ArithmeticFault (Figures α) := do
  let expected := r.expected average
  let all := expected * (← Figure.ofInt? targets)
  let bonus := chain.map fun c => chainBonus average c.chance r.chance
  let total :=
    match bonus with
    | some b => all + b
    | none => all
  return ⟨average, r.chance, expected, bonus, total⟩

end ExpectedDamage.Spell
