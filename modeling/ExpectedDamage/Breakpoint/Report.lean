import ExpectedDamage.Breakpoint.Resource
import ExpectedDamage.Breakpoint.Sweep
import ExpectedDamage.Character.Basic
import ExpectedDamage.Notice
/-!
# The breakpoint report of a character

Every question about features that arises for a character: the trade of accuracy
for damage for those with such a feat, a reckless attack for barbarians, a stun for
monks, a smite for paladins, and the pacing of slots for whoever has some.
-/

namespace ExpectedDamage.Breakpoint

open Record

/-- A power attack without and with advantage. -/
structure PowerAttack where
  feat : String
  normal : Table
  withAdvantage : Table
  deriving DecidableEq, Repr

/-- A stun against targets with a bad, an average and a good constitution. -/
structure StunningStrikes where
  bad : StunningStrike
  average : StunningStrike
  good : StunningStrike
  deriving DecidableEq, Repr

/-- A smite on a critical hit and on another hit. -/
structure Smites where
  onCrit : Smite
  onHit : Smite
  deriving DecidableEq, Repr

/-- What the features of a character are worth. -/
structure Report where
  character : Character
  powerAttack : Option PowerAttack
  recklessAttack : Option Table
  stunningStrike : Option StunningStrikes
  divineSmite : Option Smites
  spellPacing : Option Pacing
  deriving DecidableEq, Repr

/-- The wisdom of a monk that names none. -/
def defaultWisdom : Int := 3

/-- The slots of a paladin that names none. -/
def defaultSmiteSlots : List Int := [2, 2]

/-- The slots of a character, none if the list is empty. -/
def givenSlots (c : Character) : Option (List Int) :=
  c.resources.spellSlots.filter fun slots => slots ≠ []

/-- What is computed if a condition holds. -/
def computeIf {α : Type} (condition : Bool) (compute : Except ArithmeticFault α) :
    Except ArithmeticFault (Option α) :=
  if condition then some <$> compute else .ok none

def powerAttackOf? (c : Character) (feat : String) : Except ArithmeticFault PowerAttack := do
  let form : AttackForm := { bonus := c.attackBonus, damage := .real c.baseDamage }
  return ⟨feat, ← powerAttack? form .none, ← powerAttack? form .advantage⟩

def recklessAttackOf? (c : Character) : Except ArithmeticFault Table :=
  recklessAttack? { bonus := c.attackBonus, damage := .real c.baseDamage }
    (.real c.resources.enemyDamage)

def stunningStrikesOf? (c : Character) : Except ArithmeticFault StunningStrikes := do
  let wisdom := (c.stat? "wisdom").getD defaultWisdom
  let strike (save : Int) := stunningStrike? c.level.val wisdom save c.resources.ki.val
  return ⟨← strike 0, ← strike 3, ← strike 6⟩

/-- The smites of a paladin against a target at half of a hundred hit points. -/
def smitesOf? (c : Character) : Except ArithmeticFault Smites := do
  let slots := (givenSlots c).getD defaultSmiteSlots
  let onHit (isCrit : Bool) := smite? c.level.val slots (.whole 50) (.whole 100) isCrit
  return ⟨← onHit true, ← onHit false⟩

def report? (c : Character) : Except ArithmeticFault Report := do
  let powerAttack ← c.powerAttackFeat.mapM (powerAttackOf? c)
  let recklessAttack ← computeIf (c.normalizedClass == "barbarian") (recklessAttackOf? c)
  let stunningStrike ← computeIf (c.normalizedClass == "monk") (stunningStrikesOf? c)
  let divineSmite ← computeIf (c.normalizedClass == "paladin") (smitesOf? c)
  let spellPacing ← (givenSlots c).mapM fun slots => pacing? slots c.resources.encounters.val
  return ⟨c, powerAttack, recklessAttack, stunningStrike, divineSmite, spellPacing⟩

namespace PowerAttack

def normalAdvice (p : PowerAttack) : String :=
  "Use " ++ p.feat ++ " against AC " ++ toString p.normal.breakpoint ++ " or lower"

def advantageAdvice (p : PowerAttack) : String :=
  "With advantage: use " ++ p.feat ++ " against AC " ++ toString p.withAdvantage.breakpoint
    ++ " or lower"

def recommendations (p : PowerAttack) : List String :=
  let low := min p.normal.breakpoint p.withAdvantage.breakpoint
  let high := max p.normal.breakpoint p.withAdvantage.breakpoint
  let raised := p.withAdvantage.breakpoint - p.normal.breakpoint
  [p.feat ++ ": Always use vs AC ≤" ++ toString low,
   p.feat ++ ": Never use vs AC ≥" ++ toString (high + 3),
   p.feat ++ ": With advantage, threshold increases by ~" ++ toString raised ++ " AC"]

def dump (p : PowerAttack) : Value :=
  .object
    [("normal", p.normal.dump),
     ("normal_advice", .text p.normalAdvice),
     ("with_advantage", p.withAdvantage.dump),
     ("with_advantage_advice", .text p.advantageAdvice)]

end PowerAttack

def StunningStrikes.dump (s : StunningStrikes) : Value :=
  .object
    [("vs_bad_con", s.bad.dump), ("vs_average_con", s.average.dump), ("vs_good_con", s.good.dump)]

def Smites.dump (s : Smites) : Value :=
  .object [("on_crit", s.onCrit.dump), ("on_hit", s.onHit.dump)]

/-- Who a report or a sheet is about. -/
def dumpCharacter (c : Character) : Value :=
  .object
    [("name", .text c.name), ("class_name", .ofOption .text c.className),
     ("level", .int c.level.val)]

namespace Report

/-- The recommendations of a report, feature by feature. -/
def recommendations (r : Report) : List String :=
  (r.powerAttack.map PowerAttack.recommendations).getD []
  ++ (if r.recklessAttack.isSome then
      ["Reckless Attack: Best when you have high HP and resistance",
       "Reckless Attack: Avoid when facing many enemies or low HP"]
    else [])
  ++ (if r.stunningStrike.isSome then
      ["Stunning Strike: Target low-CON enemies (casters, rogues)",
       "Stunning Strike: Save ki vs high-CON brutes"]
    else [])
  ++ (if r.divineSmite.isSome then
      ["Divine Smite: Always smite on critical hits",
       "Divine Smite: Save slots for crits unless you need to secure a kill"]
    else [])

def notice (r : Report) : Notice :=
  ⟨.debug, "Breakpoints for " ++ r.character.name ++ ": " ++ toString r.recommendations.length
    ++ " recommendations"⟩

def dump (r : Report) : Value :=
  .object
    [("character", dumpCharacter r.character),
     ("power_attack", .object (r.powerAttack.toList.map fun p => (p.feat, p.dump))),
     ("reckless_attack", .ofOption Table.dump r.recklessAttack),
     ("stunning_strike", .ofOption StunningStrikes.dump r.stunningStrike),
     ("divine_smite", .ofOption Smites.dump r.divineSmite),
     ("spell_pacing", .ofOption Pacing.dump r.spellPacing),
     ("recommendations", .list (r.recommendations.map .text))]

end Report

end ExpectedDamage.Breakpoint
