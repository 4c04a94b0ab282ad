import ExpectedDamage.Spell.Analysis
/-!
# Analyses as records

The record of an analysis has a field for every figure. A harmless spell has
defaults in their place: zeros, one target, and no efficiency or tactics.
-/

namespace ExpectedDamage.Spell

open Record

def ChainDamage.dump (c : ChainDamage) : Value :=
  .object
    [("chance", .real c.chain.chance),
     ("description", .text c.chain.description),
     ("expected_bonus_damage", .real c.bonus)]

/-- The text on a corrected roll. -/
def Damage.correctionNote (d : Damage) : Option String :=
  d.corrected.map fun roll => "Corrected from scraped \"" ++ roll ++ "\""

def Damage.dump (d : Damage) : Value :=
  .object
    [("has_damage", .bool true),
     ("note", .null),
     ("base_damage", .text d.roll),
     ("base_damage_note", .ofOption .text d.correctionNote),
     ("average_roll", .real d.average),
     ("minimum", .int d.minimum),
     ("maximum", .int d.maximum),
     ("hit_chance", .int d.chance),
     ("save_for_half", .bool d.saveForHalf),
     ("expected_damage", .real d.expected),
     ("targets", .int d.targets),
     ("max_targets", .int d.maxTargets),
     ("total_expected_damage", .real d.total),
     ("sustained_damage", .ofOption .real d.sustained),
     ("chain_mechanic", .ofOption ChainDamage.dump d.chain),
     ("damage_types", .list (d.types.types.map .text)),
     ("damage_type_choice", .bool (d.types.picker = .caster)),
     ("damage_type_random", .bool (d.types.picker = .chance))]

def Harmless.dump (h : Harmless) : Value :=
  .object
    [("has_damage", .bool false),
     ("note", .text h.note),
     ("base_damage", .null),
     ("base_damage_note", .null),
     ("average_roll", .real 0.0),
     ("minimum", .int 0),
     ("maximum", .int 0),
     ("hit_chance", .int 0),
     ("save_for_half", .bool false),
     ("expected_damage", .real 0.0),
     ("targets", .int 1),
     ("max_targets", .int 1),
     ("total_expected_damage", .real 0.0),
     ("sustained_damage", .null),
     ("chain_mechanic", .null),
     ("damage_types", .list []),
     ("damage_type_choice", .bool false),
     ("damage_type_random", .bool false)]

def Damage.dumpEfficiency (d : Damage) : Value :=
  .object
    [("damage_per_slot_level", .real d.perSlotLevel),
     ("damage_per_action", .real d.total),
     ("vs_cantrip", d.versusCantrip.dump),
     ("slot_efficiency", d.slotRating.dump)]

def Verdict.dump : Verdict → Value
  | .harmless h => h.dump
  | .damaging d => d.dump

def Analysis.dump (a : Analysis) : Value :=
  .object
    [("spell", .object
      [("key", .text a.spell.key),
       ("name", .text a.spell.name),
       ("level", .int a.spell.level.val),
       ("school", .ofOption .text a.spell.school),
       ("concentration", .bool a.spell.concentration),
       ("ritual", .bool a.spell.ritual)]),
     ("context", .object
      [("caster_level", .int a.context.casterLevel.val),
       ("spell_dc", .int a.context.saveDifficulty),
       ("spell_attack_bonus", .int a.context.attackBonus)]),
     ("damage", a.verdict.dump),
     ("efficiency", .ofOption Damage.dumpEfficiency a.damage?),
     ("tactical", .ofOption (fun d => d.tactics.dump) a.damage?)]

end ExpectedDamage.Spell
