import ExpectedDamage.Combat.Attack
import ExpectedDamage.Number.Rounding
import ExpectedDamage.Record.Value
/-!
# Sweeps over armor classes

An option of an attack is compared with the plain attack at every armor class of a
range. Its breakpoint is the highest class at which it is recommended. What is
recommended is decided on the exact differences, before they are rounded.
-/

namespace ExpectedDamage.Breakpoint

open Combat
open Record

def armorClasses : List Int := (List.range 16).map fun (i : Nat) => (i : Int) + 10

/-- An option and the plain attack at one armor class. -/
structure Row where
  armor : Int
  baseline : Binary64
  modified : Binary64
  recommended : Bool
  difference : Binary64
  /-- The damage that enemies do in return. -/
  extraTaken : Binary64
  deriving DecidableEq, Repr

/-- A sweep over armor classes. -/
structure Table where
  rows : List Row
  deriving DecidableEq, Repr

namespace Table

/-- The highest armor class at which the option is recommended, zero if there is none. -/
def breakpoint (t : Table) : Int :=
  (((t.rows.filter Row.recommended).getLast?).map Row.armor).getD 0

end Table

/-- The details of an attack as they are entered. -/
structure AttackForm where
  bonus : Int
  damage : Amount
  critRange : Int := 20
  critDice : Int := 0
  critDamage : Amount := .whole 0
  deriving DecidableEq, Repr

def AttackForm.attack? (f : AttackForm) (edge : Edge) :
    Except ArithmeticFault (Attack Binary64) := do
  let damage ← f.damage.toReal?
  let critDamage ← f.critDamage.toReal?
  return ⟨f.bonus, damage, edge, f.critRange, f.critDice, critDamage⟩

/-- The form of a power attack: five less to hit, ten more damage. -/
def AttackForm.powered (f : AttackForm) : AttackForm :=
  { f with bonus := f.bonus - 5, damage := f.damage.raise 10 }

def powerAttack? (form : AttackForm) (edge : Edge) : Except ArithmeticFault Table := do
  let plain ← form.attack? edge
  let powered ← form.powered.attack? edge
  let rows ← armorClasses.mapM fun armor => do
    let normal ← plain.expectedDamage? armor
    let modified ← powered.expectedDamage? armor
    return {
      armor, baseline := ← roundDamage? normal, modified := ← roundDamage? modified
      recommended := normal < modified, difference := ← roundDamage? (modified - normal)
      extraTaken := 0.0 }
  return ⟨rows⟩

/-- The sweep of a reckless attack: it has advantage, and enemies who then have it too
do a quarter more damage. -/
def recklessAttack? (form : AttackForm) (enemyDamage : Amount) : Except ArithmeticFault Table := do
  let extra := (← enemyDamage.toReal?) * 0.25
  let plain ← form.attack? .none
  let reckless ← form.attack? .advantage
  let rows ← armorClasses.mapM fun armor => do
    let normal ← plain.expectedDamage? armor
    let modified ← reckless.expectedDamage? armor
    let benefit := modified - normal - extra
    return {
      armor, baseline := ← roundDamage? normal, modified := ← roundDamage? modified
      recommended := (0 : Binary64) < benefit, difference := ← roundDamage? benefit
      extraTaken := ← roundDamage? extra }
  return ⟨rows⟩

def Row.dump (r : Row) : Value :=
  .object
    [("ac", .int r.armor),
     ("baseline_dpr", .real r.baseline),
     ("modified_dpr", .real r.modified),
     ("recommended", .bool r.recommended),
     ("difference", .real r.difference),
     ("extra_damage_taken", .real r.extraTaken)]

def Table.dump (t : Table) : Value :=
  .object [("rows", .list (t.rows.map Row.dump)), ("breakpoint", .int t.breakpoint)]

end ExpectedDamage.Breakpoint
