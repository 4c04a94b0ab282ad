import ExpectedDamage.Adventure
import ExpectedDamage.Keyed
import ExpectedDamage.Spell.AnalysisRecord
/-!
# Tiers of a cantrip

A cantrip rolls more dice at four character levels. Each tier is an analysis of the
cantrip with the dice of the tier, for a caster of its level.
-/

namespace ExpectedDamage.Spell

open Combat (Context)
open Record

/-- The character levels at which the damage of cantrips rises. -/
def tierLevels : List CharacterLevel := [.first, .fifth, .eleventh, .seventeenth]

/-- The analysis of a cantrip at a level. -/
structure CantripTier where
  level : CharacterLevel
  dice : Nat
  analysis : Analysis
  deriving DecidableEq, Repr

def atTier? (s : Spell) (level : CharacterLevel) : Except ArithmeticFault Spell := do
  return { s with damageRoll := ← Dice.scaleCantrip? s.damageRoll (cantripDice level.val) }

def tier? (s : Spell) (context : Context) (level : CharacterLevel) :
    Except ArithmeticFault CantripTier := do
  let scaled ← s.atTier? level
  let analysis ← scaled.analyze? { context with casterLevel := level } none
  return ⟨level, cantripDice level.val, analysis⟩

def tiers? (s : Spell) (context : Context) : Except ArithmeticFault (List CantripTier) :=
  tierLevels.mapM (s.tier? context)

/-- The remarks on a tier, up to the point where its analysis ends. -/
def tierNotices (s : Spell) (level : CharacterLevel) : List Notice :=
  Dice.parseNotices (s.damageRoll.getD "")
  ++ (match s.atTier? level with
    | .ok scaled => scaled.analysisNotices none
    | .error _ => [])

/-- Tiers of cantrips by their names. Of two cantrips of one name the later one counts. -/
def tiersByName (tiers : List (Spell × List CantripTier)) : List (String × List CantripTier) :=
  Keyed.merge [] (tiers.map fun (s, ts) => (s.name, ts))

def CantripTier.dump (t : CantripTier) : Value :=
  .object
    [("level", .int t.level.val), ("dice", .int t.dice), ("analysis", t.analysis.dump)]

end ExpectedDamage.Spell
