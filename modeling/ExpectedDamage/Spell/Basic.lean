import ExpectedDamage.Keyed
import ExpectedDamage.Record.Field
import ExpectedDamage.Record.Scalar
import ExpectedDamage.Text.Lowercase
import ExpectedDamage.Text.Search
/-!
# Spells

A spell or an attack as a store of game content describes it. Most of a spell is
free text, which the analysis reads for wordings it knows.
-/

namespace ExpectedDamage

open Record

/-- A spell as a record describes it. -/
structure Spell where
  key : String := ""
  name : String
  /-- Zero is a cantrip. -/
  level : Between 0 9 := ⟨0, by decide⟩
  school : Option String := none
  castingTime : Option String := none
  range : Option String := none
  duration : Option String := none
  concentration : Bool := false
  ritual : Bool := false
  /-- A dice expression, if the spell does damage. -/
  damageRoll : Option String := none
  damageTypes : List String := []
  /-- The ability of the saving throw, if there is one. -/
  savingThrow : Option String := none
  attackRoll : Bool := false
  classes : List String := []
  description : String := ""
  /-- What a casting with a higher slot adds. -/
  higherLevel : Option String := none
  source : Option String := none
  deriving DecidableEq, Repr

namespace Spell

/-- The marks that a store puts in front of its keys to tell sources apart. -/
def sourceMarks : List String := ["wikidot_", "srd_"]

/-- The key without the mark of its source. -/
def normalizeKey (key : String) : String :=
  match Text.afterAny? sourceMarks key.toList with
  | some rest => String.ofList rest
  | none => key

def normalizedKey (s : Spell) : String := normalizeKey s.key

/-- The description in lower case, in which all wordings are looked for. -/
def wording (s : Spell) : List Char := Text.lower s.description.toList

/-- Whether an optional text is there and not empty. -/
def isGiven : Option String → Bool
  | some text => text ≠ ""
  | none => false

def isDamaging (s : Spell) : Bool := isGiven s.damageRoll

def readFields (fields : List (String × Value)) : Checked Spell :=
  let text := Value.orNull Value.asText
  let texts := Value.asList Value.asText
  Spell.mk
    <$> (FieldName.plain "key").orElse "" Value.asText fields
    <*> (FieldName.plain "name").required Value.asText fields
    <*> (FieldName.plain "level").orElse ⟨0, by decide⟩ (Value.asBetween 0 9) fields
    <*> (FieldName.plain "school").orElse none text fields
    <*> (FieldName.mk "casting_time" "castingTime").orElse none text fields
    <*> (FieldName.plain "range").orElse none text fields
    <*> (FieldName.plain "duration").orElse none text fields
    <*> (FieldName.plain "concentration").orElse false Value.asBool fields
    <*> (FieldName.plain "ritual").orElse false Value.asBool fields
    <*> (FieldName.mk "damage_roll" "damageRoll").orElse none text fields
    <*> (FieldName.mk "damage_types" "damageTypes").orElse [] texts fields
    <*> (FieldName.mk "saving_throw" "savingThrow").orElse none text fields
    <*> (FieldName.mk "attack_roll" "attackRoll").orElse false Value.asBool fields
    <*> (FieldName.plain "classes").orElse [] texts fields
    <*> (FieldName.plain "description").orElse "" Value.asText fields
    <*> (FieldName.mk "higher_level" "higherLevel").orElse none text fields
    <*> (FieldName.plain "source").orElse none text fields

def read (v : Value) : Checked Spell := v.asRecord readFields

def dumpFields (s : Spell) : List (String × Value) :=
  [("key", .text s.key),
   ("name", .text s.name),
   ("level", .int s.level.val),
   ("school", .ofOption .text s.school),
   ("casting_time", .ofOption .text s.castingTime),
   ("range", .ofOption .text s.range),
   ("duration", .ofOption .text s.duration),
   ("concentration", .bool s.concentration),
   ("ritual", .bool s.ritual),
   ("damage_roll", .ofOption .text s.damageRoll),
   ("damage_types", .list (s.damageTypes.map .text)),
   ("saving_throw", .ofOption .text s.savingThrow),
   ("attack_roll", .bool s.attackRoll),
   ("classes", .list (s.classes.map .text)),
   ("description", .text s.description),
   ("higher_level", .ofOption .text s.higherLevel),
   ("source", .ofOption .text s.source)]

def dump (s : Spell) : Value := .object s.dumpFields

/-- The spell with some fields changed, read again as a whole. -/
def withChanges (s : Spell) (changes : List (String × Value)) : Checked Spell :=
  readFields (Keyed.merge s.dumpFields changes)

end Spell

end ExpectedDamage
