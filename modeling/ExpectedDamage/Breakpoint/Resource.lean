import ExpectedDamage.Number.Rounding
import ExpectedDamage.Number.WholeSum
import ExpectedDamage.Record.Value
/-!
# Spending limited resources

When a stun is worth its ki, when a smite is worth its slot, and how far the slots of
a day reach.
-/

namespace ExpectedDamage.Breakpoint

open Record

/-- The difficulty of a monk's saving throws; the proficiency bonus is taken as one more
than a quarter of the level, rounded up. -/
def stunDifficulty? (monkLevel wisdom : Int) : Except ArithmeticFault Int := do
  let quarter ← (← Binary64.quotient? monkLevel 4).ceil?
  return 8 + quarter + 1 + wisdom

/-- A number kept between two bounds. -/
def clamp (low high x : Binary64) : Binary64 :=
  let capped := if x < high then x else high
  if low < capped then capped else low

/-- The worth of a stun. -/
structure StunningStrike where
  difficulty : Int
  /-- The chance that the target fails its saving throw, in percent. -/
  failPercent : Int
  recommended : Bool
  reasoning : String
  deriving DecidableEq, Repr

/-- Whether a stun is worth its ki. A stun is worth a fixed amount, and ki is worth the
more the less is left. -/
def stunningStrike? (monkLevel wisdom constitutionSave remainingKi : Int) :
    Except ArithmeticFault StunningStrike := do
  let difficulty ← stunDifficulty? monkLevel wisdom
  let fail := clamp 0.05 0.95 (← Binary64.quotient? (difficulty - constitutionSave - 1) 20)
  let kiWorth ← Binary64.quotient? 10 (max 1 remainingKi)
  return {
    difficulty
    failPercent := ← percent? (.real fail)
    recommended := kiWorth < fail * 20
    reasoning :=
      if fail < 0.25 then "Low success chance - save your ki"
      else if fail < 0.5 then "Moderate chance - use if target is high priority"
      else "Good chance - worth attempting" }

/-- A smite with a slot of a level. -/
structure SmiteOption where
  slotLevel : Nat
  damage : Binary64
  canKill : Bool
  recommended : Bool
  advice : String
  deriving DecidableEq, Repr

/-- The smites that a paladin can choose from. -/
structure Smite where
  isCrit : Bool
  options : List SmiteOption
  advice : String
  deriving DecidableEq, Repr

/-- The average damage of a smite by the level of its slot. -/
def smiteDamage : List (Nat × Binary64) := [(1, 9.0), (2, 13.5), (3, 18.0), (4, 22.5)]

def smiteOption? (totalSlots remaining : Int) (hitPoints : Amount) (isCrit : Bool)
    (slotLevel : Nat) (average : Binary64) : Except ArithmeticFault SmiteOption := do
  let damage := if isCrit then average * 2 else average
  let canKill := hitPoints.atMost damage
  let share ← Binary64.quotient? remaining totalSlots
  let scarce : Bool := share < 0.3
  return {
    slotLevel
    damage := ← roundHalfUp? (.real damage) 1
    canKill
    recommended := isCrit || canKill || !scarce
    advice :=
      if isCrit then "Always smite on crits!"
      else if canKill then "Smite to secure the kill"
      else if scarce then "Conserve slots - target isn't critical"
      else "Smite if target is high priority" }

/-- The smites of a paladin, level by level. A critical hit doubles the dice and is
always worth a smite. -/
def smite? (paladinLevel : Int) (slots : List Int) (hitPoints maxHitPoints : Amount)
    (isCrit : Bool) : Except ArithmeticFault Smite := do
  let totalSlots := paladinLevel / 2 + 2
  let remaining := (slots.zip smiteDamage).filter fun slot => 0 < slot.1
  let options ← remaining.mapM fun (left, level, average) =>
    smiteOption? totalSlots left hitPoints isCrit level average
  let isLow ←
    if !isCrit && maxHitPoints.isPositive then do
      let share ← hitPoints.div? maxHitPoints
      pure (decide (share < 0.25))
    else pure false
  return {
    isCrit, options
    advice :=
      if isCrit then "SMITE! Crits double your smite dice."
      else if isLow then "Target is low - smite to finish them"
      else "Consider saving slots for crits unless this target must die now" }

/-- The spell slots of a day, spread over its encounters. -/
structure Pacing where
  totalSlots : Int
  encounters : Int
  slotsPerEncounter : Binary64
  shortRests : Int
  recommendations : List String
  deriving DecidableEq, Repr

/-- How far spell slots reach. A short rest is assumed every three encounters. -/
def pacing? (slots : List Int) (expectedEncounters : Int) : Except ArithmeticFault Pacing := do
  let encounters := max 1 expectedEncounters
  let totalSlots := wholeSum slots
  let share ← Binary64.quotient? totalSlots encounters
  return {
    totalSlots, encounters
    slotsPerEncounter := ← roundHalfUp? (.real share) 1
    shortRests := encounters / 3
    recommendations :=
      if share < 1 then
        ["Conserve heavily - rely on cantrips for most encounters",
         "Save leveled spells for emergencies or boss fights"]
      else if share < 2 then
        ["Use one leveled spell per encounter on average",
         "Save high-level slots for difficult fights"]
      else
        ["You have slots to spare - don't be afraid to use them",
         "Lead with strong spells to end fights quickly"] }

def StunningStrike.dump (s : StunningStrike) : Value :=
  .object
    [("dc", .int s.difficulty),
     ("fail_probability", .int s.failPercent),
     ("recommend_use", .bool s.recommended),
     ("reasoning", .text s.reasoning)]

def SmiteOption.dump (o : SmiteOption) : Value :=
  .object
    [("slot_level", .int o.slotLevel),
     ("expected_damage", .real o.damage),
     ("can_kill", .bool o.canKill),
     ("should_smite", .bool o.recommended),
     ("recommendation", .text o.advice)]

def Smite.dump (s : Smite) : Value :=
  .object
    [("is_crit", .bool s.isCrit),
     ("recommendations", .list (s.options.map SmiteOption.dump)),
     ("general_advice", .text s.advice)]

def Pacing.dump (p : Pacing) : Value :=
  .object
    [("total_slots", .int p.totalSlots),
     ("expected_encounters", .int p.encounters),
     ("slots_per_encounter", .real p.slotsPerEncounter),
     ("short_rests_expected", .int p.shortRests),
     ("recommendations", .list (p.recommendations.map .text))]

end ExpectedDamage.Breakpoint
