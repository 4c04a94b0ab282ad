import ExpectedDamage.Combat.Context
import ExpectedDamage.Proofs.Record.Reading
/-!
# Contexts under changes

A change either gives the next context or is refused and changes nothing. Which context it
gives is said field by field (`Context.withChanges_eq_ok_iff`): a field that the change
gives takes the value given, once that is validated, and any other field keeps its value.
The bonuses of saving throws are changed one by one in the same way; of several keys that
name an ability the last one counts. A run of changes keeps to this at every step, and
never leaves the ranges of the fields (`Context.run_foldl_step`).
-/

namespace ExpectedDamage.Combat

open Record

/-! Saving throws. -/

namespace Ability

theorem ofText?_name (a : Ability) : ofText? a.name = some a := by
  cases a <;> decide +kernel

theorem name_injective {a b : Ability} (h : a.name = b.name) : a = b :=
  Option.some.inj ((ofText?_name a).symm.trans (h ▸ ofText?_name b))

end Ability

namespace Saves

/-- The last of some changes under a key that names the ability. -/
def lastNaming? (a : Ability) (changes : List (String × Value)) : Option Value :=
  (changes.reverse.find? fun change => Ability.ofText? change.1 = some a).map Prod.snd

theorem abilityKey_eq_name_iff {key : String} {a : Ability} :
    abilityKey key = a.name ↔ Ability.ofText? key = some a := by
  rw [abilityKey]
  cases hkey : Ability.ofText? key with
  | none =>
      constructor
      · rintro rfl
        exact hkey.symm.trans a.ofText?_name
      · exact nofun
  | some b =>
      constructor
      · intro h
        exact congrArg some (Ability.name_injective h)
      · intro h
        exact congrArg Ability.name (Option.some.inj h)

/-- The changes by ability: the last one that names it. -/
theorem lookup?_abilityKeys (a : Ability) (changes : List (String × Value)) :
    Keyed.lookup? (Keyed.merge [] (changes.map fun (key, v) => (abilityKey key, v))) a.name =
      lastNaming? a changes := by
  rw [Keyed.lookup?_merge, Keyed.lookup?, lastNaming?, ← List.map_reverse, List.find?_map]
  have hnames (key : String) :
      (abilityKey key == a.name) = decide (Ability.ofText? key = some a) := by
    rw [Bool.eq_iff_iff]
    simp [abilityKey_eq_name_iff]
  simp [Keyed.lookup?, Function.comp_def, hnames]

/-- An object changes the ability that a key of it is the name of. -/
theorem readOver_eq_ok_iff {old new : Saves} {fields : List (String × Value)} :
    old.readOver fields = .ok new ↔
      ∀ a, Updated Value.asInt (Keyed.lookup? fields a.name) (old.bonus a) (new.bonus a) := by
  simp only [readOver, field, Checked.seq_eq_ok_iff, Checked.map_eq_ok_iff,
    FieldName.orElse_plain_eq_ok_iff]
  constructor
  · rintro ⟨_, charisma, ⟨_, wisdom, ⟨_, intelligence, ⟨_, constitution, ⟨_, dexterity,
      ⟨strength, hstrength, rfl⟩, hdexterity, rfl⟩, hconstitution, rfl⟩, hintelligence, rfl⟩,
      hwisdom, rfl⟩, hcharisma, rfl⟩ a
    cases a with
    | strength => exact hstrength
    | dexterity => exact hdexterity
    | constitution => exact hconstitution
    | intelligence => exact hintelligence
    | wisdom => exact hwisdom
    | charisma => exact hcharisma
  · intro h
    exact ⟨_, _, ⟨_, _, ⟨_, _, ⟨_, _, ⟨_, _, ⟨_, h .strength, rfl⟩, h .dexterity, rfl⟩,
      h .constitution, rfl⟩, h .intelligence, rfl⟩, h .wisdom, rfl⟩, h .charisma, rfl⟩

/-- Bonuses are changed ability by ability. -/
theorem withChanges_eq_ok_iff {old new : Saves} {changes : List (String × Value)} :
    old.withChanges changes = .ok new ↔
      ∀ a, Updated Value.asInt (lastNaming? a changes) (old.bonus a) (new.bonus a) := by
  rw [withChanges, readOver_eq_ok_iff]
  simp only [lookup?_abilityKeys]

/-- The bonuses after a change of them. Only an object changes them, and only those of the
abilities that it names. -/
def Changed (change : Option Value) (old new : Saves) : Prop :=
  match change with
  | some (.object changes) =>
    ∀ a, Updated Value.asInt (lastNaming? a changes) (old.bonus a) (new.bonus a)
  | some _ => False
  | none => new = old

end Saves

/-! Contexts. -/

namespace Context

/-- What a change gives for a field; null is nothing. -/
def given? (changes : List (String × Value)) (name : String) : Option Value :=
  Keyed.lookup? (changes.filter fun change => !isNull change.2) name

/-- Each field but the bonuses of saving throws takes what the change gives for it, as it is
validated, and keeps its value if the change gives nothing. -/
structure FieldsOverridden (before : Context) (changes : List (String × Value))
    (after : Context) : Prop where
  proficiencyBonus : Updated Value.asInt (given? changes "proficiency_bonus")
    before.proficiencyBonus after.proficiencyBonus
  abilityModifier : Updated Value.asInt (given? changes "ability_modifier")
    before.abilityModifier after.abilityModifier
  casterLevel : Updated (Value.asBetween 1 20) (given? changes "caster_level")
    before.casterLevel after.casterLevel
  targetArmor : Updated Value.asInt (given? changes "target_ac")
    before.targetArmor after.targetArmor
  expectedTargets : Updated (Value.asAtLeast 1) (given? changes "expected_targets")
    before.expectedTargets after.expectedTargets
  expectedDuration : Updated (Value.asAtLeast 1) (given? changes "expected_duration")
    before.expectedDuration after.expectedDuration
  expectedEncounters : Updated (Value.asAtLeast 1) (given? changes "expected_encounters")
    before.expectedEncounters after.expectedEncounters
  clustered : Updated Value.asBool (given? changes "clustered") before.clustered after.clustered

/-- A context follows from another one by a change, in every field. -/
structure Overridden (before : Context) (changes : List (String × Value))
    (after : Context) : Prop extends FieldsOverridden before changes after where
  targetSaves : Saves.Changed (given? changes "target_saves") before.targetSaves after.targetSaves

theorem readOver_eq_ok_iff {old new : Context} {changes : List (String × Value)}
    {readSaves : List (String × Value) → Checked Saves} :
    old.readOver readSaves (changes.filter fun change => !isNull change.2) = .ok new ↔
      FieldsOverridden old changes new ∧
        readSaves (changes.filter fun change => !isNull change.2) = .ok new.targetSaves := by
  simp only [readOver, Checked.seq_eq_ok_iff, Checked.map_eq_ok_iff,
    FieldName.orElse_plain_eq_ok_iff]
  constructor
  · rintro ⟨_, clustered, ⟨_, encounters, ⟨_, duration, ⟨_, targets, ⟨_, saves, ⟨_, armor,
      ⟨_, level, ⟨_, modifier, ⟨proficiency, hproficiency, rfl⟩, hmodifier, rfl⟩, hlevel, rfl⟩,
      harmor, rfl⟩, hsaves, rfl⟩, htargets, rfl⟩, hduration, rfl⟩, hencounters, rfl⟩,
      hclustered, rfl⟩
    exact ⟨⟨hproficiency, hmodifier, hlevel, harmor, htargets, hduration, hencounters,
      hclustered⟩, hsaves⟩
  · rintro ⟨h, hsaves⟩
    exact ⟨_, _, ⟨_, _, ⟨_, _, ⟨_, _, ⟨_, _, ⟨_, _, ⟨_, _, ⟨_, _, ⟨_, h.proficiencyBonus, rfl⟩,
      h.abilityModifier, rfl⟩, h.casterLevel, rfl⟩, h.targetArmor, rfl⟩, hsaves, rfl⟩,
      h.expectedTargets, rfl⟩, h.expectedDuration, rfl⟩, h.expectedEncounters, rfl⟩,
      h.clustered, rfl⟩

/-- A change succeeds with a context exactly if that follows by the change. -/
theorem withChanges_eq_ok_iff {c d : Context} {changes : List (String × Value)} :
    c.withChanges changes = .ok d ↔ c.Overridden changes d := by
  have hfind : savesField.find? (changes.filter fun change => !isNull change.2) =
      (given? changes "target_saves").map fun v => ("target_saves", v) :=
    FieldName.find?_plain _ _
  have hiff : c.Overridden changes d ↔ FieldsOverridden c changes d ∧
      Saves.Changed (given? changes "target_saves") c.targetSaves d.targetSaves :=
    ⟨fun h => ⟨h.toFieldsOverridden, h.targetSaves⟩, fun h => ⟨h.1, h.2⟩⟩
  have hread : savesField.orElse c.targetSaves Saves.read
      (changes.filter fun change => !isNull change.2) = .ok d.targetSaves ↔
        Updated Saves.read (given? changes "target_saves") c.targetSaves d.targetSaves :=
    FieldName.orElse_plain_eq_ok_iff
  -- Only an object is merged; anything else is read as a record, and only an object is one.
  have hother : ∀ v, given? changes "target_saves" = v → (∀ bonuses, v ≠ some (.object bonuses)) →
      (c.readOver (savesField.orElse c.targetSaves Saves.read)
        (changes.filter fun change => !isNull change.2) = .ok d ↔
          FieldsOverridden c changes d ∧ Saves.Changed v c.targetSaves d.targetSaves) := by
    intro v hv hobject
    rw [readOver_eq_ok_iff, hread, hv]
    refine and_congr_right fun _ => ?_
    cases v with
    | none => exact Iff.rfl
    | some v =>
        cases v with
        | object bonuses => exact absurd rfl (hobject bonuses)
        | _ => exact iff_of_false nofun id
  rw [withChanges, hfind, hiff]
  cases hgiven : given? changes "target_saves" with
  | none => exact hother none hgiven nofun
  | some v =>
      cases v with
      | object bonuses =>
          refine Checked.andThen_eq_ok_iff.trans ?_
          simp only [readOver_eq_ok_iff]
          constructor
          · rintro ⟨saves, hsaves, hfields, heq⟩
            obtain rfl := Checked.ok.inj heq
            exact ⟨hfields, Saves.withChanges_eq_ok_iff.1 hsaves⟩
          · rintro ⟨hfields, hsaves⟩
            exact ⟨d.targetSaves, Saves.withChanges_eq_ok_iff.2 hsaves, hfields, rfl⟩
      | _ => exact hother _ hgiven nofun

/-- The level of the caster can be changed to any level, and nothing else changes with it. -/
theorem withChanges_casterLevel (c : Context) (level : CharacterLevel) :
    c.withChanges [("caster_level", .int level.val)] = .ok { c with casterLevel := level } := by
  have hread : Value.asBetween 1 20 (.int level.val) = .ok level := dif_pos level.property
  have hfield : (FieldName.plain "caster_level").orElse c.casterLevel (Value.asBetween 1 20)
      [("caster_level", .int level.val)] = .ok level := by
    change (Value.asBetween 1 20 (.int level.val)).under "caster_level" = _
    rw [hread]
    rfl
  change readOver c _ [("caster_level", .int level.val)] = _
  rw [readOver, hfield]
  rfl

/-! Runs. -/

/-- The ranges of the fields that have one. -/
structure InRange (c : Context) : Prop where
  casterLevel : 1 ≤ c.casterLevel.val ∧ c.casterLevel.val ≤ 20
  expectedTargets : 1 ≤ c.expectedTargets.val
  expectedDuration : 1 ≤ c.expectedDuration.val
  expectedEncounters : 1 ≤ c.expectedEncounters.val

theorem inRange (c : Context) : c.InRange where
  casterLevel := c.casterLevel.property
  expectedTargets := c.expectedTargets.property
  expectedDuration := c.expectedDuration.property
  expectedEncounters := c.expectedEncounters.property

/-- A run of changes that leads from one context to another one, through contexts that are
all in range. A change that gives a context gives one that follows by it, and a change is
refused only if no context follows by it; then the run goes on from where it was. -/
inductive Run : Context → List (List (String × Value)) → Context → Prop
  | done {c : Context} (range : c.InRange) : Run c [] c
  | changed {c d e : Context} {changes : List (String × Value)}
      {rest : List (List (String × Value))} (range : c.InRange)
      (success : c.withChanges changes = .ok d) (follows : c.Overridden changes d)
      (run : Run d rest e) : Run c (changes :: rest) e
  | refused {c e : Context} {changes : List (String × Value)}
      {rest : List (List (String × Value))} {problems : List Problem} (range : c.InRange)
      (failure : c.withChanges changes = .refused problems)
      (none : ∀ d, ¬ c.Overridden changes d) (run : Run c rest e) : Run c (changes :: rest) e

/-- One step of a run. -/
theorem Run.step_cons {c e : Context} {changes : List (String × Value)}
    {rest : List (List (String × Value))} (h : Run (c.step changes) rest e) :
    Run c (changes :: rest) e := by
  rw [step] at h
  split at h
  · next d hd => exact .changed c.inRange hd (withChanges_eq_ok_iff.1 hd) h
  · next problems hproblems =>
      refine .refused c.inRange hproblems ?_ h
      intro d hd
      rw [withChanges_eq_ok_iff.2 hd] at hproblems
      exact nomatch hproblems

/-- Every list of changes, taken one after the other from any context, is such a run. -/
theorem run_foldl_step (c : Context) (run : List (List (String × Value))) :
    Run c run (run.foldl step c) := by
  induction run generalizing c with
  | nil => exact .done c.inRange
  | cons changes rest ih => exact .step_cons (ih (c.step changes))

/-- A level that is too high is refused, and the bonuses of a run add up. -/
example :
    [[("target_ac", .int 18)], [("target_ac", .int 20), ("caster_level", .int 21)],
      [("target_saves", .object [("luck", .int 9), ("dex save", .int 4), ("DEX", .int 5)])],
      [("target_saves", .object [("Wisdom", .text "2")])]].foldl step {} =
      { targetArmor := 18, targetSaves := { dexterity := 5, wisdom := 2 } } := by
  decide +kernel

end Context

end ExpectedDamage.Combat
