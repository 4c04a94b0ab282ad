import ExpectedDamage.Adventure
import ExpectedDamage.Combat.Ability
import ExpectedDamage.Keyed
import ExpectedDamage.Record.Field
/-!
# The combat context

Everything that an analysis assumes about the caster and the targets. Contexts
are values: a change is read from the fields of an object and gives a new context
or the list of its problems. The ranges of the fields are part of their types, so
no change leads out of them.
-/

namespace ExpectedDamage.Combat

open Record

/-- What an analysis assumes about the caster and the targets. -/
structure Context where
  proficiencyBonus : Int := 3
  abilityModifier : Int := 4
  casterLevel : CharacterLevel := .fifth
  targetArmor : Int := 15
  targetSaves : Saves := {}
  /-- The creatures in an area; one leaves the number to the estimate. -/
  expectedTargets : AtLeast 1 := ⟨1, by decide⟩
  expectedDuration : AtLeast 1 := ⟨1, by decide⟩
  expectedEncounters : AtLeast 1 := usualEncounters
  /-- Whether enemies stand close together. -/
  clustered : Bool := false
  deriving DecidableEq, Repr

namespace Saves

def field (a : Ability) : FieldName := .plain a.name

/-- The bonuses of an object; an ability that is not given keeps its bonus of `base`. -/
def readOver (base : Saves) (fields : List (String × Value)) : Checked Saves :=
  let bonus (a : Ability) := (field a).orElse (base.bonus a) Value.asInt fields
  Saves.mk <$> bonus .strength <*> bonus .dexterity <*> bonus .constitution
    <*> bonus .intelligence <*> bonus .wisdom <*> bonus .charisma

def read (v : Value) : Checked Saves := v.asRecord (readOver {})

def dumpFields (s : Saves) : List (String × Value) :=
  Ability.all.map fun a => (a.name, .int (s.bonus a))

def dump (s : Saves) : Value := .object s.dumpFields

/-- The key of an ability in place of a key that names it. -/
def abilityKey (key : String) : String := ((Ability.ofText? key).map Ability.name).getD key

/-- The bonuses with some of them changed. Abilities may be named in any way; of two
changes of one ability the later one counts. -/
def withChanges (s : Saves) (changes : List (String × Value)) : Checked Saves :=
  readOver s (Keyed.merge [] (changes.map fun (key, v) => (abilityKey key, v)))

end Saves

namespace Context

/-- The difficulty of the caster's saving throws. -/
def saveDifficulty (c : Context) : Int := 8 + c.proficiencyBonus + c.abilityModifier

/-- The bonus of the caster's attack rolls. -/
def attackBonus (c : Context) : Int := c.proficiencyBonus + c.abilityModifier

/-- The context of an object; a field that is not given keeps its value of `base`.
The bonuses of saving throws are read by the given reader. -/
def readOver (base : Context) (readSaves : List (String × Value) → Checked Saves)
    (fields : List (String × Value)) : Checked Context :=
  Context.mk
    <$> (FieldName.plain "proficiency_bonus").orElse base.proficiencyBonus Value.asInt fields
    <*> (FieldName.plain "ability_modifier").orElse base.abilityModifier Value.asInt fields
    <*> (FieldName.plain "caster_level").orElse base.casterLevel (Value.asBetween 1 20) fields
    <*> (FieldName.plain "target_ac").orElse base.targetArmor Value.asInt fields
    <*> readSaves fields
    <*> (FieldName.plain "expected_targets").orElse base.expectedTargets (Value.asAtLeast 1) fields
    <*> (FieldName.plain "expected_duration").orElse base.expectedDuration (Value.asAtLeast 1)
      fields
    <*> (FieldName.plain "expected_encounters").orElse base.expectedEncounters (Value.asAtLeast 1)
      fields
    <*> (FieldName.plain "clustered").orElse base.clustered Value.asBool fields

def savesField : FieldName := .plain "target_saves"

def read (v : Value) : Checked Context :=
  v.asRecord (readOver {} (savesField.orElse {} Saves.read))

def dump (c : Context) : Value :=
  .object
    [("proficiency_bonus", .int c.proficiencyBonus),
     ("ability_modifier", .int c.abilityModifier),
     ("caster_level", .int c.casterLevel.val),
     ("target_ac", .int c.targetArmor),
     ("target_saves", c.targetSaves.dump),
     ("expected_targets", .int c.expectedTargets.val),
     ("expected_duration", .int c.expectedDuration.val),
     ("expected_encounters", .int c.expectedEncounters.val),
     ("clustered", .bool c.clustered)]

def isNull : Value → Bool
  | .null => true
  | _ => false

/-- The context with some fields changed. A change to null is no change. Bonuses of
saving throws are changed one by one, and a problem among them is reported before
any other, under the ability alone. -/
def withChanges (c : Context) (changes : List (String × Value)) : Checked Context :=
  let given := changes.filter fun change => !isNull change.2
  match savesField.find? given with
  | some (_, .object bonuses) =>
    (c.targetSaves.withChanges bonuses).andThen fun saves =>
      c.readOver (fun _ => .ok saves) given
  | _ => c.readOver (savesField.orElse c.targetSaves Saves.read) given

/-- The context after one more change; a change with a problem changes nothing. -/
def step (c : Context) (changes : List (String × Value)) : Context :=
  match c.withChanges changes with
  | .ok next => next
  | .refused _ => c

end Context

end ExpectedDamage.Combat
