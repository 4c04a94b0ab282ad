import ExpectedDamage.Proofs.Combat.ChanceOrder
import ExpectedDamage.Proofs.Dice.Normalization
import ExpectedDamage.Proofs.Number.Order
import ExpectedDamage.Proofs.Spell.Analysis
import ExpectedDamage.Spell.AnalysisRecord
/-!
# Consistent records

The fields of the record of an analysis depend on each other. Whether a casting does damage can be
told from its note, from its efficiency and from its tactics alike. A record without damage has
defaults everywhere (`HarmlessRecord`), and one with damage keeps to what its spell says
(`DamagingRecord`): the chance is certain exactly for a spell with neither an attack roll nor a
saving throw, and a sustained damage is there exactly for a concentration with a duration. So
`dump_consistent` lets a reader of the record rely on one field for the others.
-/

namespace ExpectedDamage.Record

/-- The value at the end of a path of keys. -/
def Value.at? : List String → Value → Option Value
  | [], v => some v
  | key :: path, .object fields => (Keyed.lookup? fields key).bind (at? path)
  | _ :: _, _ => none

theorem Value.ofOption_ne_null_iff {α : Type} {f : α → Value} {x : Option α}
    (h : ∀ a, f a ≠ .null) : some (Value.ofOption f x) ≠ some .null ↔ x.isSome = true := by
  cases x with
  | none => exact iff_of_false (fun hne => hne rfl) Bool.false_ne_true
  | some a => exact iff_of_true (fun heq => h a (Option.some.inj heq)) rfl

end ExpectedDamage.Record

namespace ExpectedDamage.Spell

open Combat (Context)
open Record

/-! Chances in percent. -/

theorem resolution_eq_sure_iff (s : Spell) (context : Context) :
    s.resolution context = .sure ↔ s.attackRoll = false ∧ isGiven s.savingThrow = false := by
  rw [resolution]
  cases s.attackRoll <;> cases isGiven s.savingThrow <;> simp

theorem leavesHalf_resolution {s : Spell} {context : Context}
    (h : (s.resolution context).leavesHalf = true) :
    isGiven s.savingThrow = true ∧ s.attackRoll = false := by
  rw [resolution] at h
  split at h
  · exact nomatch h
  · next hattack =>
      split at h
      · next hsave => exact ⟨hsave, Bool.eq_false_of_not_eq_true hattack⟩
      · exact nomatch h

/-- A chance that is not certain is shown as a number of faces of a die with twenty of them, which
is neither none nor all. -/
theorem Resolution.percent_cases {r : Resolution} {percent : Int}
    (h : percent? (.real r.chance) = .ok percent) :
    r = .sure ∧ percent = 100 ∨ r ≠ .sure ∧ 5 ∣ percent ∧ 5 ≤ percent ∧ percent ≤ 95 := by
  cases r with
  | attack bonus armor =>
      obtain rfl := Except.ok.inj ((Combat.percent?_hitChance bonus armor).symm.trans h)
      have hfaces := Combat.hitFaces_bounds bonus armor
      exact .inr ⟨nofun, Int.dvd_mul_right 5 _, by omega, by omega⟩
  | save difficulty bonus half =>
      obtain rfl := Except.ok.inj ((Combat.percent?_saveFailChance difficulty bonus).symm.trans h)
      have hfaces := Combat.failFaces_bounds difficulty bonus
      exact .inr ⟨nofun, Int.dvd_mul_right 5 _, by omega, by omega⟩
  | sure =>
      have hwhole : percent? (.real 1.0) = .ok 100 := by decide +kernel
      exact .inl ⟨rfl, (Except.ok.inj (hwhole.symm.trans h)).symm⟩

theorem sustained?_isSome_iff {s : Spell} {total : Binary64} {sustained : Option Binary64}
    (h : s.sustained? total = .ok sustained) :
    sustained.isSome = true ↔ s.concentration = true ∧ isGiven s.duration = true := by
  rw [sustained?] at h
  rw [← Bool.and_eq_true]
  split at h
  · next hlasts =>
      obtain ⟨rounds, -, h⟩ := bind_eq_ok_iff.1 h
      obtain ⟨figure, -, h⟩ := bind_eq_ok_iff.1 h
      obtain ⟨shown, -, rfl⟩ := map_eq_ok_iff.1 h
      exact iff_of_true rfl hlasts
  · next hlasts =>
      obtain rfl := Except.ok.inj h
      exact iff_of_false Bool.false_ne_true hlasts

/-! Verdicts. -/

theorem Verdict.damage?_eq_some_iff {v : Verdict} {d : Damage} :
    v.damage? = some d ↔ v = .damaging d := by
  cases v with
  | harmless reason => exact iff_of_false nofun nofun
  | damaging d' => exact Option.some_inj.trans ⟨congrArg damaging, damaging.inj⟩

theorem Verdict.damage?_eq_none_iff {v : Verdict} :
    v.damage? = none ↔ ∃ reason, v = .harmless reason := by
  cases v with
  | harmless reason => exact iff_of_true rfl ⟨reason, rfl⟩
  | damaging d => exact iff_of_false nofun nofun

/-! Records. -/

/-- Without damage, every field of the damage has its default. -/
structure HarmlessRecord (record : Value) : Prop where
  figures : ∀ key ∈ ["average_roll", "expected_damage", "total_expected_damage"],
    record.at? ["damage", key] = some (.real 0.0)
  counts : ∀ key ∈ ["minimum", "maximum", "hit_chance"],
    record.at? ["damage", key] = some (.int 0)
  targets : ∀ key ∈ ["targets", "max_targets"], record.at? ["damage", key] = some (.int 1)
  types : record.at? ["damage", "damage_types"] = some (.list [])
  flags : ∀ key ∈ ["save_for_half", "damage_type_choice", "damage_type_random"],
    record.at? ["damage", key] = some (.bool false)
  absent : ∀ key ∈ ["base_damage", "base_damage_note", "sustained_damage", "chain_mechanic"],
    record.at? ["damage", key] = some .null

/-- With damage, the fields of the damage keep to each other and to the spell. -/
structure DamagingRecord (s : Spell) (record : Value) : Prop where
  bounds : ∃ least most, record.at? ["damage", "minimum"] = some (.int least) ∧
    record.at? ["damage", "maximum"] = some (.int most) ∧ least ≤ most
  total : ∃ total : Binary64, total.IsFinite ∧
    record.at? ["damage", "total_expected_damage"] = some (.real total) ∧
    record.at? ["efficiency", "damage_per_action"] = some (.real total)
  chance : ∃ percent, record.at? ["damage", "hit_chance"] = some (.int percent) ∧
    (percent = 100 ↔ s.attackRoll = false ∧ isGiven s.savingThrow = false) ∧
    (percent ≠ 100 → 5 ∣ percent ∧ 5 ≤ percent ∧ percent ≤ 95)
  half : ∃ half, record.at? ["damage", "save_for_half"] = some (.bool half) ∧
    (half = true → isGiven s.savingThrow = true ∧ s.attackRoll = false)
  sustained : record.at? ["damage", "sustained_damage"] ≠ some .null ↔
    s.concentration = true ∧ isGiven s.duration = true
  area : ∃ targets, record.at? ["damage", "targets"] = some (.int targets) ∧
    record.at? ["tactical", "is_aoe"] = some (.bool (1 < targets))
  /-- Nobody but the caster or chance picks a type, and never both. -/
  picker : ∃ choice random, record.at? ["damage", "damage_type_choice"] = some (.bool choice) ∧
    record.at? ["damage", "damage_type_random"] = some (.bool random) ∧ ¬ (choice ∧ random)

/-- What a record says about whether there is damage, and what follows from it. -/
structure ConsistentRecord (s : Spell) (hasDamage : Bool) (record : Value) : Prop where
  flag : record.at? ["damage", "has_damage"] = some (.bool hasDamage)
  note : record.at? ["damage", "note"] = some .null ↔ hasDamage = true
  efficiency : record.at? ["efficiency"] = some .null ↔ hasDamage = false
  tactical : record.at? ["tactical"] = some .null ↔ hasDamage = false
  harmless : hasDamage = false → HarmlessRecord record
  damaging : hasDamage = true → DamagingRecord s record

theorem harmlessRecord_dump {a : Analysis} {reason : Harmless} (h : a.verdict = .harmless reason) :
    HarmlessRecord a.dump := by
  rcases a with ⟨spell, context, verdict⟩
  obtain rfl : verdict = .harmless reason := h
  exact {
    figures := List.map_inj_left.1 rfl
    counts := List.map_inj_left.1 rfl
    targets := List.map_inj_left.1 rfl
    types := rfl
    flags := List.map_inj_left.1 rfl
    absent := List.map_inj_left.1 rfl }

theorem damagingRecord_dump {s : Spell} {context : Context} {slotLevel : Int}
    {recorded roll : String} {dice : Dice.Expression} {area : Area.TargetEstimate}
    {unrounded : Figures Binary64} {d : Damage} (hvalid : dice.Valid)
    (hd : s.Calculated context slotLevel recorded roll dice area unrounded d)
    {a : Analysis} (h : a.verdict = .damaging d) : DamagingRecord s a.dump := by
  have hchance := Resolution.percent_cases (chance_of_figures? hd.figures ▸ hd.chance)
  have hsustained := sustained?_isSome_iff hd.sustained
  have htotal := (Binary64.plain_of_roundDamage? hd.total).isFinite
  have hrest := hd.rest
  rcases a with ⟨spell, context', verdict⟩
  obtain rfl : verdict = .damaging d := h
  exact {
    bounds := by
      refine ⟨d.minimum, d.maximum, rfl, rfl, ?_⟩
      rw [hrest]
      exact Dice.Expression.minimum_le_maximum hvalid
    total := ⟨d.total, htotal, rfl, rfl⟩
    chance := by
      refine ⟨d.chance, rfl, ?_⟩
      rw [← resolution_eq_sure_iff s context]
      rcases hchance with ⟨hsure, hpercent⟩ | ⟨hsure, hpercent⟩
      · exact ⟨iff_of_true hpercent hsure, fun hne => absurd hpercent hne⟩
      · exact ⟨iff_of_false (by omega) hsure, fun _ => hpercent⟩
    half := by
      refine ⟨d.saveForHalf, rfl, fun hhalf => ?_⟩
      rw [hrest] at hhalf
      exact leavesHalf_resolution hhalf
    sustained := (Value.ofOption_ne_null_iff (f := .real) fun _ => nofun).trans hsustained
    area := by
      refine ⟨d.targets, rfl, ?_⟩
      rw [hrest]
      rfl
    picker := by
      refine ⟨_, _, rfl, rfl, ?_⟩
      cases d.types.picker <;> decide }

/-- The record of an analysis is consistent: whether there is damage can be told from each of four
fields, and all other fields are defaults without damage, and keep to each other and to the spell
with damage. -/
theorem dump_consistent {s : Spell} {context : Context} {castLevel : Option Int} {a : Analysis}
    (h : s.analyze? context castLevel = .ok a) :
    ∃ hasDamage, ConsistentRecord s hasDamage a.dump := by
  rcases analyze?_cases h with
    ⟨hnone, -⟩ | ⟨recorded, roll, dice, d, -, -, -, hparse, hdamage, hsome⟩
  · obtain ⟨reason, hverdict⟩ := Verdict.damage?_eq_none_iff.1 hnone
    have hrecord := harmlessRecord_dump hverdict
    rcases a with ⟨spell, context', verdict⟩
    obtain rfl : verdict = .harmless reason := hverdict
    exact ⟨false, rfl, iff_of_false nofun nofun, iff_of_true rfl rfl, iff_of_true rfl rfl,
      fun _ => hrecord, nofun⟩
  · have hverdict := Verdict.damage?_eq_some_iff.1 hsome
    obtain ⟨area, unrounded, hd⟩ := damage?_eq_ok_iff.1 hdamage
    have hrecord := damagingRecord_dump (Dice.valid_of_parse? hparse) hd hverdict
    rcases a with ⟨spell, context', verdict⟩
    obtain rfl : verdict = .damaging d := hverdict
    exact ⟨true, rfl, iff_of_true rfl rfl, iff_of_false nofun nofun, iff_of_false nofun nofun,
      nofun, fun _ => hrecord⟩

/-- A saving throw that nearly always fails, for half the damage of a concentration that lasts. -/
theorem dump_consistent_wall :
    let s : Spell :=
      { name := "Wall", concentration := true, duration := some "1 minute"
        damageRoll := some "5d8", savingThrow := some "dexterity"
        description := "You choose acid or fire in a 60-foot line. Half as much damage." }
    let context : Context := { targetSaves := { dexterity := -20 } }
    ∃ a, s.analyze? context (some 4) = .ok a ∧ a.damage?.isSome = true ∧
      ∃ hasDamage, ConsistentRecord s hasDamage a.dump := by
  intro s context
  have hdamage : ((s.analyze? context (some 4)).toOption.bind Analysis.damage?).isSome = true := by
    decide +kernel
  cases ha : s.analyze? context (some 4) with
  | error fault =>
      rw [ha] at hdamage
      exact absurd hdamage Bool.false_ne_true
  | ok a =>
      rw [ha] at hdamage
      exact ⟨a, rfl, hdamage, dump_consistent ha⟩

end ExpectedDamage.Spell
