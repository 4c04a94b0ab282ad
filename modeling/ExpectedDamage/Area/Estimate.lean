import ExpectedDamage.Area.TargetRule
import ExpectedDamage.Combat.Context
/-!
# Estimated targets

How many creatures a description affects in a context. A context that expects
more than one target overrides the estimate, up to the most that the wording
allows; a description without a known wording has a single target.
-/

namespace ExpectedDamage.Area

/-- The creatures that are expected in an area, and the most that there can be. -/
structure TargetEstimate where
  targets : Int
  maxTargets : Int
  source : Option RuleMatch
  deriving DecidableEq, Repr

/-- The targets of a match when the context leaves their number to the estimate. -/
def RuleMatch.defaultTargets? (m : RuleMatch) (clustered : Bool) : Except ArithmeticFault Int :=
  match m.targets with
  | some n => .ok n
  | none => enemiesIn? m.maxTargets clustered

/-- The targets of a description in lower case. -/
def estimate? (text : List Char) (context : Combat.Context) (clustered : Bool) :
    Except ArithmeticFault TargetEstimate := do
  match ← firstMatch? text with
  | none => return ⟨1, 1, none⟩
  | some m =>
    let default ← m.defaultTargets? clustered
    let expected := context.expectedTargets.val
    let targets := if 1 < expected then min expected m.maxTargets else default
    return ⟨targets, m.maxTargets, some m⟩

end ExpectedDamage.Area
