import ExpectedDamage.Adventure
import ExpectedDamage.Keyed
import ExpectedDamage.Record.Field
import ExpectedDamage.Text.Lowercase
/-!
# Characters

A character as its player enters it, with the resources that are left.
-/

namespace ExpectedDamage

open Record

/-- What a character has left to spend, and what the day still asks. -/
structure Resources where
  ki : AtLeast 0 := ⟨5, by decide⟩
  /-- The slots of each level from the first on, if the character casts spells. -/
  spellSlots : Option (List Int) := none
  enemyDamage : Binary64 := 10.0
  encounters : AtLeast 1 := usualEncounters
  deriving DecidableEq, Repr

/-- A character as a record describes it. -/
structure Character where
  name : String := "Character"
  className : Option String := none
  level : CharacterLevel := .first
  attackBonus : Int := 5
  /-- The average damage of a hit. -/
  baseDamage : Binary64 := 10.0
  armor : Int := 15
  feats : List String := []
  /-- The modifiers of abilities, by their names. -/
  stats : List (String × Int) := []
  resources : Resources := {}
  deriving DecidableEq, Repr

namespace Resources

def readFields (fields : List (String × Value)) : Checked Resources :=
  Resources.mk
    <$> (FieldName.plain "ki").orElse ⟨5, by decide⟩ (Value.asAtLeast 0) fields
    <*> (FieldName.mk "spell_slots" "spellSlots").orElse none
      (Value.orNull (Value.asList Value.asInt)) fields
    <*> (FieldName.mk "expected_enemy_damage" "expectedEnemyDamage").orElse 10.0 Value.asReal fields
    <*> (FieldName.mk "expected_encounters" "expectedEncounters").orElse usualEncounters
      (Value.asAtLeast 1) fields

def read (v : Value) : Checked Resources := v.asRecord readFields

def dump (r : Resources) : Value :=
  .object
    [("ki", .int r.ki.val),
     ("spell_slots", .ofOption (fun slots => .list (slots.map .int)) r.spellSlots),
     ("expected_enemy_damage", .real r.enemyDamage),
     ("expected_encounters", .int r.encounters.val)]

end Resources

namespace Character

/-- The class in lower case, empty if there is none. -/
def normalizedClass (c : Character) : String := Text.lowercase (c.className.getD "")

/-- The feats that trade accuracy for damage, in the order of preference. -/
def powerAttackFeats : List String := ["GWM", "Sharpshooter"]

/-- The feat that the character trades accuracy for damage with. -/
def powerAttackFeat (c : Character) : Option String :=
  powerAttackFeats.find? fun feat => c.feats.contains feat

def stat? (c : Character) (name : String) : Option Int :=
  Keyed.lookup? c.stats name

def readFields (fields : List (String × Value)) : Checked Character :=
  Character.mk
    <$> (FieldName.plain "name").orElse "Character" Value.asText fields
    <*> (FieldName.mk "class_name" "class").orElse none (Value.orNull Value.asText) fields
    <*> (FieldName.plain "level").orElse .first (Value.asBetween 1 20) fields
    <*> (FieldName.mk "attack_bonus" "attackBonus").orElse 5 Value.asInt fields
    <*> (FieldName.mk "base_damage" "baseDamage").orElse 10.0 Value.asReal fields
    <*> (FieldName.plain "ac").orElse 15 Value.asInt fields
    <*> (FieldName.plain "feats").orElse [] (Value.asList Value.asText) fields
    <*> (FieldName.plain "stats").orElse [] (Value.asObject Value.asInt) fields
    <*> (FieldName.plain "resources").orElse {} Resources.read fields

def read (v : Value) : Checked Character := v.asRecord readFields

def dumpFields (c : Character) : List (String × Value) :=
  [("name", .text c.name),
   ("class_name", .ofOption .text c.className),
   ("level", .int c.level.val),
   ("attack_bonus", .int c.attackBonus),
   ("base_damage", .real c.baseDamage),
   ("ac", .int c.armor),
   ("feats", .list (c.feats.map .text)),
   ("stats", .object (c.stats.map fun (name, modifier) => (name, .int modifier))),
   ("resources", c.resources.dump)]

def dump (c : Character) : Value := .object c.dumpFields

end Character

end ExpectedDamage
