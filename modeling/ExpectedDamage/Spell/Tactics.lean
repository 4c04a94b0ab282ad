import ExpectedDamage.Combat.Ability
import ExpectedDamage.Spell.Basic
/-!
# Tactical remarks

What a player should know about a damaging spell beyond its figures. Each remark
has a text to be read; most have a tag for the condition under which the spell is
at its best.
-/

namespace ExpectedDamage.Spell

open Combat (Ability)

/-- A remark on the use of a spell. -/
inductive Tactic where
  | concentration
  /-- A saving throw whose ability tells good targets from bad ones. -/
  | save (ability : Ability)
  | area (targets : Int)
  | ritual
  | control
  | bonusAction
  deriving DecidableEq, Repr

namespace Tactic

/-- The text and the tag on the saving throw of an ability. -/
def onSave? : Ability → Option (String × String)
  | .dexterity => some ("DEX save - less effective vs agile enemies", "target_low_dex")
  | .constitution => some ("CON save - less effective vs tough enemies", "target_low_con")
  | .wisdom => some ("WIS save - effective vs low-WIS creatures", "target_low_wis")
  | .intelligence => some ("INT save - very effective vs beasts/undead", "target_low_int")
  | .strength | .charisma => none

/-- The text of a remark. -/
def note? : Tactic → Option String
  | concentration => some "Requires concentration - can be interrupted"
  | save ability => (onSave? ability).map Prod.fst
  | area targets => some ("AoE spell - best with " ++ toString targets ++ "+ clustered enemies")
  | ritual => some "Can be cast as ritual (no slot, +10 min)"
  | control => some "Applies powerful condition - tactical control"
  | bonusAction => some "Uses bonus action - good action economy"

def tag? : Tactic → Option String
  | concentration => some "maintain_concentration"
  | save ability => (onSave? ability).map Prod.snd
  | area _ => some "multiple_targets"
  | ritual => none
  | control => some "control_spell"
  | bonusAction => some "bonus_action"

end Tactic

/-- The conditions that take a creature out of a fight. -/
def controlWords : List String := ["restrained", "paralyzed", "stunned"]

def controls (s : Spell) : Bool := controlWords.any fun word => Text.contains word s.wording

def tactics (s : Spell) (targets : Int) : List Tactic :=
  (if s.concentration then [.concentration] else [])
  ++ (match s.savingThrow.bind Ability.ofText? with
    | some ability => [.save ability]
    | none => [])
  ++ (if 1 < targets then [.area targets] else [])
  ++ (if s.ritual then [.ritual] else [])
  ++ (if s.controls then [.control] else [])
  ++ (if Text.contains "bonus action" s.wording then [.bonusAction] else [])

/-- The remarks on a spell, as an analysis shows them. -/
structure TacticalSummary where
  notes : List String
  conditions : List String
  isControl : Bool
  isArea : Bool
  deriving DecidableEq, Repr

def tacticalSummary (s : Spell) (targets : Int) : TacticalSummary :=
  { notes := (s.tactics targets).filterMap Tactic.note?
    conditions := (s.tactics targets).filterMap Tactic.tag?
    isControl := s.controls
    isArea := 1 < targets }

open Record in
def TacticalSummary.dump (t : TacticalSummary) : Value :=
  .object
    [("notes", .list (t.notes.map .text)),
     ("best_conditions", .list (t.conditions.map .text)),
     ("is_control", .bool t.isControl),
     ("is_aoe", .bool t.isArea)]

end ExpectedDamage.Spell
