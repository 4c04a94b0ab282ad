import ExpectedDamage.Combat.Context
import ExpectedDamage.Document.Cursor
import ExpectedDamage.Keyed
import ExpectedDamage.Library.Folder
import ExpectedDamage.Library.Variables
import ExpectedDamage.Notice
import ExpectedDamage.Text.Lowercase
import ExpectedDamage.Text.Search
/-!
# Settings

Settings come from variables whose names begin with `DPRCALC_`, in any case. The
environment goes before the file `.env`, and that before the defaults. All values
are texts, read like those of a record.
-/

namespace ExpectedDamage.Library

open Record

/-- What the command line starts from. -/
structure Settings where
  proficiencyBonus : Int := 3
  abilityModifier : Int := 4
  casterLevel : Int := 5
  targetArmor : Int := 15
  expectedTargets : Int := 1
  expectedEncounters : Int := 4
  clustered : Bool := false
  /-- The rows of a ranking. -/
  topSpellsLimit : Int := 10
  debug : Bool := false
  logLevel : NoticeLevel := .warning
  deriving DecidableEq, Repr

namespace Settings

def effectiveLevel (s : Settings) : NoticeLevel := if s.debug then .debug else s.logLevel

def readFields (fields : List (String × Value)) : Checked Settings :=
  Settings.mk
    <$> (FieldName.plain "proficiency_bonus").orElse 3 Value.asInt fields
    <*> (FieldName.plain "ability_modifier").orElse 4 Value.asInt fields
    <*> (FieldName.plain "caster_level").orElse 5 Value.asInt fields
    <*> (FieldName.plain "target_ac").orElse 15 Value.asInt fields
    <*> (FieldName.plain "expected_targets").orElse 1 Value.asInt fields
    <*> (FieldName.plain "expected_encounters").orElse 4 Value.asInt fields
    <*> (FieldName.plain "clustered").orElse false Value.asBool fields
    <*> (FieldName.plain "top_spells_limit").orElse 10 Value.asInt fields
    <*> (FieldName.plain "debug").orElse false Value.asBool fields
    <*> (FieldName.plain "log_level").orElse .warning (Value.asChoice NoticeLevel.ofName?) fields

def dump (s : Settings) : Value :=
  .object
    [("proficiency_bonus", .int s.proficiencyBonus),
     ("ability_modifier", .int s.abilityModifier),
     ("caster_level", .int s.casterLevel),
     ("target_ac", .int s.targetArmor),
     ("expected_targets", .int s.expectedTargets),
     ("expected_encounters", .int s.expectedEncounters),
     ("clustered", .bool s.clustered),
     ("top_spells_limit", .int s.topSpellsLimit),
     ("debug", .bool s.debug),
     ("log_level", .text s.logLevel.name)]

def context (s : Settings) : Checked Combat.Context :=
  Combat.Context.read
    (.object
      [("proficiency_bonus", .int s.proficiencyBonus),
       ("ability_modifier", .int s.abilityModifier),
       ("caster_level", .int s.casterLevel),
       ("target_ac", .int s.targetArmor),
       ("expected_targets", .int s.expectedTargets),
       ("expected_encounters", .int s.expectedEncounters),
       ("clustered", .bool s.clustered)])

end Settings

/-- The fields of the variables that are settings; of two variables for one field the
later one counts. A variable without a value leaves its field alone. -/
def settingFields (given : List (String × Option String)) : List (String × Value) :=
  let values := given.foldl (fun values (name, value) =>
    match Text.after? "dprcalc_".toList (Text.lower name.toList) with
    | some field => Keyed.insert (String.ofList field) value values
    | none => values) []
  values.filterMap fun (field, value) => value.map fun text => (field, .text text)

/-- Why there are no settings. -/
inductive SettingsFault where
  | invalid (problems : List Problem)
  | undecodable
  deriving DecidableEq, Repr

/-- The variables of the file `.env`, if there is one. -/
def folderVariables (environment : List (String × String)) (folder : Folder) :
    Except SettingsFault (List (String × Option String)) :=
  match folder.find? ".env" with
  | some (.file bytes) =>
    match String.fromUTF8? bytes with
    | some text => .ok (fileVariables environment (Document.normalizeLines text.toList))
    | none => .error .undecodable
  | _ => .ok []

def loadSettings (environment : List (String × String)) (folder : Folder) :
    Except SettingsFault Settings := do
  let ofFile := settingFields (← folderVariables environment folder)
  let ofEnvironment := settingFields (environment.map fun (name, value) => (name, some value))
  match Settings.readFields (Keyed.merge ofFile ofEnvironment) with
  | .ok settings => return settings
  | .refused problems => throw (.invalid problems)

end ExpectedDamage.Library
