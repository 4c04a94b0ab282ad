import ExpectedDamage.Character.Basic
import ExpectedDamage.Combat.Context
import ExpectedDamage.Proofs.Record.Reload
import ExpectedDamage.Proofs.Record.Renaming
import ExpectedDamage.Spell.Basic
/-!
# Records that survive

Spells, characters with their resources, and combat contexts are read as what they were when
they have been written, each field under its first name. The fields of spells, characters and
resources may also be given under their other names, one by one, and the record stays the same
(`survives_reload_and_renaming`).
-/

namespace ExpectedDamage

open Record

/-! Spells. -/

namespace Spell

/-- The fields of a spell with their names. -/
def fieldNames : List FieldName :=
  [.plain "key", .plain "name", .plain "level", .plain "school", ⟨"casting_time", "castingTime"⟩,
    .plain "range", .plain "duration", .plain "concentration", .plain "ritual",
    ⟨"damage_roll", "damageRoll"⟩, ⟨"damage_types", "damageTypes"⟩,
    ⟨"saving_throw", "savingThrow"⟩, ⟨"attack_roll", "attackRoll"⟩, .plain "classes",
    .plain "description", ⟨"higher_level", "higherLevel"⟩, .plain "source"]

theorem distinct_fieldNames : Distinct fieldNames := by decide +kernel

theorem value?_readFields_congr {fields fields' : List (String × Value)}
    (h : ∀ f ∈ fieldNames, f.given? fields' = f.given? fields) :
    (readFields fields').value? = (readFields fields).value? := by
  simp only [fieldNames, List.forall_mem_cons] at h
  simp only [readFields, Checked.value?_seq, Checked.value?_map, FieldName.value?_orElse,
    FieldName.value?_required, h]

theorem readsBack : ReadsBack read dump := by
  intro s
  have text : ReadsBack (Value.orNull Value.asText) (.ofOption .text) :=
    ReadsBack.asText.orNull nofun
  have texts : ReadsBack (Value.asList Value.asText) fun items => .list (items.map .text) :=
    ReadsBack.asText.asList
  have level := ReadsBack.asBetween 0 9
  have hfields : read s.dump = Spell.mk <$> .ok s.key <*> .ok s.name
      <*> (Value.asBetween 0 9 (.int s.level.val)).under "level"
      <*> (Value.orNull Value.asText (.ofOption .text s.school)).under "school"
      <*> (Value.orNull Value.asText (.ofOption .text s.castingTime)).under "casting_time"
      <*> (Value.orNull Value.asText (.ofOption .text s.range)).under "range"
      <*> (Value.orNull Value.asText (.ofOption .text s.duration)).under "duration"
      <*> .ok s.concentration <*> .ok s.ritual
      <*> (Value.orNull Value.asText (.ofOption .text s.damageRoll)).under "damage_roll"
      <*> (Value.asList Value.asText (.list (s.damageTypes.map .text))).under "damage_types"
      <*> (Value.orNull Value.asText (.ofOption .text s.savingThrow)).under "saving_throw"
      <*> .ok s.attackRoll
      <*> (Value.asList Value.asText (.list (s.classes.map .text))).under "classes"
      <*> .ok s.description
      <*> (Value.orNull Value.asText (.ofOption .text s.higherLevel)).under "higher_level"
      <*> (Value.orNull Value.asText (.ofOption .text s.source)).under "source" := rfl
  rw [hfields]
  simp only [text _, texts _, level _, Checked.under_ok, Checked.map_ok, Checked.seq_ok_ok]

end Spell

/-! Characters and their resources. -/

namespace Resources

/-- The fields of resources with their names. -/
def fieldNames : List FieldName :=
  [.plain "ki", ⟨"spell_slots", "spellSlots"⟩, ⟨"expected_enemy_damage", "expectedEnemyDamage"⟩,
    ⟨"expected_encounters", "expectedEncounters"⟩]

theorem distinct_fieldNames : Distinct fieldNames := by decide +kernel

theorem value?_readFields_congr {fields fields' : List (String × Value)}
    (h : ∀ f ∈ fieldNames, f.given? fields' = f.given? fields) :
    (readFields fields').value? = (readFields fields).value? := by
  simp only [fieldNames, List.forall_mem_cons] at h
  rw [readFields, readFields]
  -- The value of the default is of no concern, and it is costly to unfold.
  generalize (10.0 : Binary64) = usualDamage
  simp only [Checked.value?_seq, Checked.value?_map, FieldName.value?_orElse, h]

theorem readsBack : ReadsBack read dump := by
  intro r
  have slots : ReadsBack (Value.orNull (Value.asList Value.asInt))
      (.ofOption fun slots => .list (slots.map .int)) := ReadsBack.asInt.asList.orNull nofun
  have ki := ReadsBack.asAtLeast 0
  have encounters := ReadsBack.asAtLeast 1
  have hfields : read r.dump = Resources.mk <$> (Value.asAtLeast 0 (.int r.ki.val)).under "ki"
      <*> (Value.orNull (Value.asList Value.asInt)
        (.ofOption (fun slots => .list (slots.map .int)) r.spellSlots)).under "spell_slots"
      <*> .ok r.enemyDamage
      <*> (Value.asAtLeast 1 (.int r.encounters.val)).under "expected_encounters" := rfl
  rw [hfields]
  simp only [slots _, ki _, encounters _, Checked.under_ok, Checked.map_ok, Checked.seq_ok_ok]

end Resources

namespace Character

/-- The fields of a character other than its resources, with their names. -/
def ownFieldNames : List FieldName :=
  [.plain "name", ⟨"class_name", "class"⟩, .plain "level", ⟨"attack_bonus", "attackBonus"⟩,
    ⟨"base_damage", "baseDamage"⟩, .plain "ac", .plain "feats", .plain "stats"]

def fieldNames : List FieldName := ownFieldNames ++ [.plain "resources"]

theorem distinct_fieldNames : Distinct fieldNames := by decide +kernel

/-- A character depends on its resources through what is read from them only. -/
theorem value?_readFields_congr {fields fields' : List (String × Value)}
    (h : ∀ f ∈ ownFieldNames, f.given? fields' = f.given? fields)
    (hresources : ((FieldName.plain "resources").given? fields').map
        (fun v => (Resources.read v).value?) =
      ((FieldName.plain "resources").given? fields).map fun v => (Resources.read v).value?) :
    (readFields fields').value? = (readFields fields).value? := by
  simp only [ownFieldNames, List.forall_mem_cons] at h
  rw [readFields, readFields]
  generalize (10.0 : Binary64) = usualDamage, ({} : Resources) = usualResources
  simp only [Checked.value?_seq, Checked.value?_map, FieldName.value?_orElse, h, hresources]

theorem readsEitherName : ReadsEitherName fieldNames read := by
  apply readsEitherName_of_congr distinct_fieldNames
  intro fields fields' h
  apply value?_readFields_congr
  · exact fun f hf => h f (List.mem_append_left _ hf)
  · rw [h _ (List.mem_append_right _ (List.mem_singleton.2 rfl))]

theorem readsBack : ReadsBack read dump := by
  intro c
  have className : ReadsBack (Value.orNull Value.asText) (.ofOption .text) :=
    ReadsBack.asText.orNull nofun
  have feats : ReadsBack (Value.asList Value.asText) fun items => .list (items.map .text) :=
    ReadsBack.asText.asList
  have stats : ReadsBack (Value.asObject Value.asInt) fun stats =>
      .object (stats.map fun stat => (stat.1, .int stat.2)) := ReadsBack.asInt.asObject
  have level := ReadsBack.asBetween 1 20
  have hfields : read c.dump = Character.mk <$> .ok c.name
      <*> (Value.orNull Value.asText (.ofOption .text c.className)).under "class_name"
      <*> (Value.asBetween 1 20 (.int c.level.val)).under "level"
      <*> .ok c.attackBonus <*> .ok c.baseDamage <*> .ok c.armor
      <*> (Value.asList Value.asText (.list (c.feats.map .text))).under "feats"
      <*> (Value.asObject Value.asInt
        (.object (c.stats.map fun stat => (stat.1, .int stat.2)))).under "stats"
      <*> (Resources.read c.resources.dump).under "resources" := rfl
  rw [hfields]
  simp only [className _, level _, feats _, stats _, Resources.readsBack _, Checked.under_ok,
    Checked.map_ok, Checked.seq_ok_ok]

/-- The keys of the resources may be renamed where they stand. -/
theorem value?_readFields_renameWithin {fields : List (String × Value)} {rename : String → String}
    (h : ∀ inner, Keyed.lookup? fields "resources" = some (.object inner) →
      Renaming Resources.fieldNames inner rename) :
    (readFields (renameWithin "resources" rename fields)).value? = (readFields fields).value? := by
  apply value?_readFields_congr
  · have hother : ∀ f ∈ ownFieldNames, ¬ f.IsName "resources" := by decide
    exact fun f hf => FieldName.given?_renameWithin (hother f hf)
  · rw [FieldName.given?_plain, FieldName.given?_plain, lookup?_renameWithin]
    cases hlookup : Keyed.lookup? fields "resources" with
    | none => rfl
    | some v =>
        cases v with
        | object inner =>
            have hread : (Resources.readFields (renameKeys rename inner)).value? =
                (Resources.readFields inner).value? :=
              Resources.value?_readFields_congr fun f hf =>
                FieldName.given?_renameKeys Resources.distinct_fieldNames (h inner hlookup) hf
            exact congrArg some hread
        | _ => rfl

end Character

/-! Combat contexts. -/

namespace Combat

theorem Saves.readsBack : ReadsBack read dump := fun _ => rfl

namespace Context

/-- The fields of a context, each with a single name. -/
def fieldNames : List FieldName :=
  ["proficiency_bonus", "ability_modifier", "caster_level", "target_ac", "target_saves",
    "expected_targets", "expected_duration", "expected_encounters", "clustered"].map .plain

theorem readsBack : ReadsBack read dump := by
  intro c
  have level := ReadsBack.asBetween 1 20
  have positive := ReadsBack.asAtLeast 1
  have hfields : read c.dump = Context.mk <$> .ok c.proficiencyBonus <*> .ok c.abilityModifier
      <*> (Value.asBetween 1 20 (.int c.casterLevel.val)).under "caster_level"
      <*> .ok c.targetArmor
      <*> (Saves.read c.targetSaves.dump).under "target_saves"
      <*> (Value.asAtLeast 1 (.int c.expectedTargets.val)).under "expected_targets"
      <*> (Value.asAtLeast 1 (.int c.expectedDuration.val)).under "expected_duration"
      <*> (Value.asAtLeast 1 (.int c.expectedEncounters.val)).under "expected_encounters"
      <*> .ok c.clustered := rfl
  rw [hfields]
  simp only [level _, positive _, Saves.readsBack _, Checked.under_ok, Checked.map_ok,
    Checked.seq_ok_ok]

end Context

end Combat

/-- Spells, characters, resources and contexts are read back from what they are written as, with
each field under its first name. The fields of the first three may be given under either name,
and so may those of the resources inside a character. -/
theorem survives_reload_and_renaming :
    (Reloads Spell.fieldNames Spell.read Spell.dump ∧
      Reloads Character.fieldNames Character.read Character.dump ∧
      Reloads Resources.fieldNames Resources.read Resources.dump ∧
      Reloads Combat.Context.fieldNames Combat.Context.read Combat.Context.dump) ∧
    (ReadsEitherName Spell.fieldNames Spell.read ∧
      ReadsEitherName Character.fieldNames Character.read ∧
      ReadsEitherName Resources.fieldNames Resources.read) ∧
    ∀ fields rename, (∀ inner, Keyed.lookup? fields "resources" = some (.object inner) →
        Renaming Resources.fieldNames inner rename) →
      ∀ c, Character.read (.object (renameWithin "resources" rename fields)) = .ok c ↔
        Character.read (.object fields) = .ok c := by
  refine ⟨⟨⟨fun s => ⟨_, rfl, rfl⟩, Spell.readsBack⟩, ⟨fun c => ⟨_, rfl, rfl⟩, Character.readsBack⟩,
    ⟨fun r => ⟨_, rfl, rfl⟩, Resources.readsBack⟩,
    ⟨fun c => ⟨_, rfl, rfl⟩, Combat.Context.readsBack⟩⟩, ⟨?_, ?_, ?_⟩, ?_⟩
  · exact readsEitherName_of_congr Spell.distinct_fieldNames
      fun _ _ => Spell.value?_readFields_congr
  · exact Character.readsEitherName
  · exact readsEitherName_of_congr Resources.distinct_fieldNames
      fun _ _ => Resources.value?_readFields_congr
  · intro fields rename h
    apply Checked.eq_ok_iff_of_value?_eq
    exact Character.value?_readFields_renameWithin h

/-- A fighter whose fields are written the one way and the other way round. -/
theorem survives_reload_and_renaming_fighter :
    let exchange : String → String := fun key =>
      if key = "class_name" then "class" else if key = "attackBonus" then "attack_bonus"
      else if key = "spell_slots" then "spellSlots" else key
    let resources : List (String × Value) := [("ki", .int 3), ("spell_slots", .list [.text "4.0"])]
    let fields : List (String × Value) :=
      [("class_name", .text "Fighter"), ("attackBonus", .int 7), ("resources", .object resources)]
    Renaming Character.fieldNames fields exchange ∧
      Renaming Resources.fieldNames resources exchange ∧
      ∀ c, Character.read (.object [("class", .text "Fighter"), ("attack_bonus", .int 7),
          ("resources", .object [("ki", .int 3), ("spellSlots", .list [.text "4.0"])])]) = .ok c ↔
        Character.read (.object fields) = .ok c := by
  intro exchange resources fields
  have houter : Renaming Character.fieldNames fields exchange := by
    rw [Renaming]
    decide
  have hinner : Renaming Resources.fieldNames resources exchange := by
    rw [Renaming]
    decide
  have hwithin : ∀ inner,
      Keyed.lookup? (renameKeys exchange fields) "resources" = some (.object inner) →
        Renaming Resources.fieldNames inner exchange := by
    rintro _ ⟨⟩
    exact hinner
  refine ⟨houter, hinner, fun c => ?_⟩
  exact (survives_reload_and_renaming.2.2 _ exchange hwithin c).trans
    (survives_reload_and_renaming.2.1.2.1 fields exchange houter c)

end ExpectedDamage
