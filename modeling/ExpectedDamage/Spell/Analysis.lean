import ExpectedDamage.Area.Estimate
import ExpectedDamage.Dice.Scaling
import ExpectedDamage.Dice.Statistics
import ExpectedDamage.Spell.DamageType
import ExpectedDamage.Spell.Duration
import ExpectedDamage.Spell.Efficiency
import ExpectedDamage.Spell.Expectation
import ExpectedDamage.Spell.Tactics
/-!
# Analysis of a spell

What one casting of a spell is worth in a context. A spell without damage that can
be read is harmless and has a reason for it; of any other spell the analysis gives
the expected damage, what it costs, and how to use it. Figures are rounded here and
nowhere before.
-/

namespace ExpectedDamage.Spell

open Combat (Context)
open Record

/-- Why a spell does no damage. -/
inductive Harmless where
  /-- The record names no damage roll. -/
  | utility
  | unreadable (roll : String)
  deriving DecidableEq, Repr

def Harmless.note : Harmless → String
  | utility => "Utility/control spell - no direct damage"
  | unreadable roll => "Could not parse damage: " ++ roll

/-- A chain and the expected damage that it adds. -/
structure ChainDamage where
  chain : Chain
  bonus : Binary64
  deriving DecidableEq, Repr

/-- The damage of one casting. -/
structure Damage where
  /-- The dice expression of the casting. -/
  roll : String
  /-- The recorded roll, if it had to be corrected. -/
  corrected : Option String
  average : Binary64
  minimum : Int
  maximum : Int
  /-- The chance of full effect in percent. -/
  chance : Int
  saveForHalf : Bool
  /-- The expected damage to one target. -/
  expected : Binary64
  targets : Int
  maxTargets : Int
  /-- The expected damage to all targets. -/
  total : Binary64
  /-- The expected damage over the whole duration of a concentration. -/
  sustained : Option Binary64
  chain : Option ChainDamage
  types : DamageTypes
  /-- The expected damage for each level of the slot. -/
  perSlotLevel : Binary64
  versusCantrip : CantripComparison
  slotRating : SlotRating
  tactics : TacticalSummary
  deriving DecidableEq, Repr

/-- What an analysis finds. -/
inductive Verdict where
  | harmless (reason : Harmless)
  | damaging (damage : Damage)
  deriving DecidableEq, Repr

/-- The analysis of a spell in a context. -/
structure Analysis where
  spell : Spell
  context : Context
  verdict : Verdict
  deriving DecidableEq, Repr

/-- The roll of a spell at its own level, corrected if there is a correction. -/
def baseRoll (s : Spell) (roll : String) : String :=
  match s.correction? with
  | some c => c.damage
  | none => roll

/-- The rule for higher slots: that of the correction, or else that of the record. -/
def slotRule (s : Spell) : Option String := (s.correction?.bind (·.slotRule)).or s.higherLevel

/-- The level of the slot that a casting takes: never below the spell's own. -/
def slotLevel (s : Spell) (castLevel : Option Int) : Int :=
  match castLevel with
  | some level => max level s.level.val
  | none => s.level.val

def isRaised (s : Spell) (castLevel : Option Int) : Bool := s.level.val < s.slotLevel castLevel

def castRoll? (s : Spell) (roll : String) (castLevel : Option Int) :
    Except ArithmeticFault String :=
  if s.isRaised castLevel then
    Dice.scaleText? (s.baseRoll roll) s.level.val (s.slotLevel castLevel) s.slotRule
  else .ok (s.baseRoll roll)

/-- The damage of a casting whose roll has been read. -/
def damage? (s : Spell) (context : Context) (slotLevel : Int) (recorded roll : String)
    (dice : Dice.Expression) : Except ArithmeticFault Damage := do
  let resolution := s.resolution context
  let average : Binary64 ← dice.mean?
  let estimate ← Area.estimate? s.wording context context.clustered
  let chain := s.correction?.bind (·.chain)
  let figures ← figures? resolution average estimate.targets chain
  let chainDamage ← chain.mapM fun c => do
    return (⟨c, ← roundDamage? (figures.chain.getD 0.0)⟩ : ChainDamage)
  let sustained ←
    if s.concentration && isGiven s.duration then do
      let rounds ← Binary64.ofInt? (← rounds? s.duration)
      some <$> roundDamage? (figures.total * rounds)
    else pure none
  let chance ← percent? (.real figures.chance)
  let expected ← roundDamage? figures.expected
  let total ← roundDamage? figures.total
  let perSlotLevel ← roundDamage? (figures.total / (← Binary64.ofInt? (max 1 slotLevel)))
  let versusCantrip ← compareToCantrip? (.real figures.total) context.casterLevel.val
  let slotRating ← rateSlot? (.real figures.total) slotLevel
  return {
    roll, corrected := s.correction?.map fun _ => recorded
    average, minimum := dice.minimum, maximum := dice.maximum
    chance, saveForHalf := resolution.leavesHalf, expected
    targets := estimate.targets, maxTargets := estimate.maxTargets, total
    sustained, chain := chainDamage, types := s.damageChoice
    perSlotLevel, versusCantrip, slotRating
    tactics := s.tacticalSummary estimate.targets }

/-- The verdict on a casting, with the given slot or at the spell's own level. -/
def verdict? (s : Spell) (context : Context) (castLevel : Option Int) :
    Except ArithmeticFault Verdict := do
  match s.damageRoll with
  | none => return .harmless .utility
  | some recorded =>
    if recorded = "" then return .harmless .utility
    else
      let roll ← s.castRoll? recorded castLevel
      match ← Dice.Expression.parse? roll with
      | none => return .harmless (.unreadable recorded)
      | some dice =>
        return .damaging (← s.damage? context (s.slotLevel castLevel) recorded roll dice)

/-- The analysis of a spell in a context, cast with the given slot or at its own level. -/
def analyze? (s : Spell) (context : Context) (castLevel : Option Int) :
    Except ArithmeticFault Analysis := do
  return ⟨s, context, ← s.verdict? context castLevel⟩

/-- The remarks on the roll of a casting and on the targets, up to the point where the
analysis ends. -/
def rollNotices (s : Spell) (recorded roll : String) : List Notice :=
  Dice.parseNotices roll
  ++ (match Dice.summarize? roll with
    | .ok none =>
      [⟨.warning, "Could not parse damage " ++ Text.quoted recorded ++ " for " ++ s.name⟩]
    | .ok (some _) => Area.matchNotices s.wording
    | .error _ => [])

/-- The remarks of an analysis, up to the point where it ends. -/
def analysisNotices (s : Spell) (castLevel : Option Int) : List Notice :=
  match s.damageRoll with
  | none => []
  | some recorded =>
    if recorded = "" then []
    else
      (match s.correction? with
        | some _ => [⟨.debug, "Applying damage override for " ++ s.normalizedKey⟩]
        | none => [])
      ++ (if s.isRaised castLevel then
          Dice.slotNotices (s.baseRoll recorded) s.level.val (s.slotLevel castLevel) s.slotRule
        else [])
      ++ (match s.castRoll? recorded castLevel with
        | .ok roll => s.rollNotices recorded roll
        | .error _ => [])

namespace Verdict

def damage? : Verdict → Option Damage
  | damaging d => some d
  | harmless _ => none

end Verdict

namespace Analysis

def damage? (a : Analysis) : Option Damage := a.verdict.damage?

/-- The figure that spells are ranked by; a harmless spell counts as zero. -/
def total (a : Analysis) : Binary64 := (a.damage?.map Damage.total).getD 0.0

end Analysis

end ExpectedDamage.Spell
