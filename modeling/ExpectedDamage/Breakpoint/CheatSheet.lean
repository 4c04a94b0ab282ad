import ExpectedDamage.Breakpoint.Report
import ExpectedDamage.Number.Decimal
import ExpectedDamage.Number.WholeText
import ExpectedDamage.Text.Blank
/-!
# Cheat sheets

A report in the form of short rules to be kept at the table. A sheet belongs to a
character and may be built from the report of another one; of the report only the
breakpoint of the power attack and the difficulty of the stun are shown.
-/

namespace ExpectedDamage.Breakpoint

open Record

/-- How much a rule of a sheet matters. -/
inductive Priority where
  | high
  | medium
  | low
  deriving DecidableEq, Repr

def Priority.name : Priority → String
  | high => "high"
  | medium => "medium"
  | low => "low"

/-- What to do under a condition. -/
structure SheetRule where
  condition : String
  action : String
  priority : Priority
  deriving DecidableEq, Repr

/-- The kinds of sections. -/
inductive SectionKind where
  | header
  | stats
  | decision
  | tips
  | reference
  deriving DecidableEq, Repr

def SectionKind.name : SectionKind → String
  | header => "header"
  | stats => "stats"
  | decision => "decision"
  | tips => "tips"
  | reference => "reference"

/-- A section of a sheet. -/
structure SheetSection where
  kind : SectionKind
  title : Option String := none
  content : Option String := none
  items : List String := []
  rules : List SheetRule := []
  modifiers : List String := []
  notes : List String := []
  deriving DecidableEq, Repr

structure CheatSheet where
  character : Character
  sections : List SheetSection
  deriving DecidableEq, Repr

/-- The text without blanks at its end. -/
def trimEnd (s : String) : String :=
  String.ofList (s.toList.reverse.dropWhile Text.isBlank).reverse

def headerSection (c : Character) : SheetSection :=
  { kind := .header
    content := some (trimEnd (c.name ++ " - Level " ++ toString c.level.val ++ " "
      ++ c.className.getD "")) }

def statsSection? (c : Character) : Except ArithmeticFault SheetSection :=
  WholeText.showing? [c.attackBonus, c.armor]
  { kind := .stats
    title := some "Combat Stats"
    items :=
      ["Attack Bonus: +" ++ toString c.attackBonus,
       "Base Damage: " ++ Layout.brief.text c.baseDamage,
       "AC: " ++ toString c.armor] }

def powerAttackSection (feat : String) (breakpoint : Int) : SheetSection :=
  { kind := .decision
    title := some (feat ++ " (-5/+10)")
    rules :=
      [⟨"AC ≤ " ++ toString (breakpoint - 2), "ALWAYS use", .high⟩,
       ⟨"AC " ++ toString (breakpoint - 1) ++ "-" ++ toString (breakpoint + 1),
        "Use with advantage only", .medium⟩,
       ⟨"AC ≥ " ++ toString (breakpoint + 2), "DO NOT use", .low⟩]
    modifiers :=
      ["Bless active: +2 to AC thresholds",
       "Advantage: +3 to AC thresholds",
       "Disadvantage: -4 to AC thresholds"] }

def recklessSection : SheetSection :=
  { kind := .decision
    title := some "Reckless Attack"
    rules :=
      [⟨"High HP, few enemies, have resistance", "USE Reckless", .high⟩,
       ⟨"Low HP or many enemies", "SKIP Reckless", .low⟩]
    notes :=
      ["Gives YOU advantage",
       "Gives ENEMIES advantage against you",
       "Best value when Rage is active (resistance)"] }

def stunSection (difficulty : Int) : SheetSection :=
  { kind := .decision
    title := some "Stunning Strike"
    rules :=
      [⟨"vs. Casters/Rogues (low CON)", "WORTH IT - attempt stun", .high⟩,
       ⟨"vs. Warriors (average CON)", "Use on high-priority targets only", .medium⟩,
       ⟨"vs. Brutes/Giants (high CON)", "SAVE YOUR KI", .low⟩]
    notes :=
      ["Your DC: " ++ toString difficulty,
       "Stunned = incapacitated, auto-fail STR/DEX saves, attacks have advantage",
       "Ki is precious - don't waste on unlikely stuns"] }

def smiteSection : SheetSection :=
  { kind := .decision
    title := some "Divine Smite"
    rules :=
      [⟨"You rolled a CRIT", "ALWAYS SMITE (double dice!)", .high⟩,
       ⟨"Target is almost dead", "Smite to secure kill", .medium⟩,
       ⟨"Normal hit, target healthy", "Save slots for crits", .low⟩]
    notes :=
      ["1st: 2d8 (9 avg) | 2nd: 3d8 (13.5 avg)",
       "3rd: 4d8 (18 avg) | 4th: 5d8 (22.5 avg)",
       "+1d8 vs undead/fiends",
       "Crits DOUBLE all smite dice!"] }

def tipsSection : SheetSection :=
  { kind := .tips
    title := some "Combat Priority"
    items :=
      ["1. Eliminate enemy casters first (concentration)",
       "2. Focus fire - dead enemies deal no damage",
       "3. Control > Damage when outnumbered",
       "4. Save resources for hard fights"] }

def referenceSection : SheetSection :=
  { kind := .reference
    title := some "Action Economy"
    items :=
      ["Action: Attack, Cast, Dash, Dodge, Help, Hide",
       "Bonus Action: Class features, some spells",
       "Reaction: Opportunity Attack, Shield, Counterspell",
       "Free: Drop item, speak briefly"] }

/-- The power attack of a report, if it is about the feat of the character. -/
def matchingPowerAttack? (c : Character) (r : Report) : Option PowerAttack :=
  r.powerAttack.filter fun p => c.powerAttackFeat == some p.feat

/-- The difficulty of a monk's stun: that of the report, or that of the level. -/
def shownDifficulty? (c : Character) (r : Report) : Except ArithmeticFault Int :=
  match r.stunningStrike with
  | some strikes => .ok strikes.average.difficulty
  | none => stunDifficulty? c.level.val defaultWisdom

/-- The sheet of a character, with the breakpoints of a report. -/
def cheatSheet? (c : Character) (r : Report) : Except ArithmeticFault CheatSheet := do
  let stats ← statsSection? c
  let power := (matchingPowerAttack? c r).toList.map fun p =>
    powerAttackSection p.feat p.normal.breakpoint
  let reckless := if c.normalizedClass = "barbarian" then [recklessSection] else []
  let stun ←
    if c.normalizedClass = "monk" then do pure [stunSection (← shownDifficulty? c r)]
    else pure []
  let smite := if c.normalizedClass = "paladin" then [smiteSection] else []
  return ⟨c, [headerSection c, stats] ++ power ++ reckless ++ stun ++ smite
    ++ [tipsSection, referenceSection]⟩

def SheetRule.dump (r : SheetRule) : Value :=
  .object
    [("condition", .text r.condition), ("action", .text r.action),
     ("priority", .text r.priority.name)]

def SheetSection.dump (s : SheetSection) : Value :=
  .object
    [("type", .text s.kind.name),
     ("title", .ofOption .text s.title),
     ("content", .ofOption .text s.content),
     ("items", .list (s.items.map .text)),
     ("rules", .list (s.rules.map SheetRule.dump)),
     ("modifiers", .list (s.modifiers.map .text)),
     ("notes", .list (s.notes.map .text))]

def CheatSheet.dump (s : CheatSheet) : Value :=
  .object
    [("character", dumpCharacter s.character),
     ("sections", .list (s.sections.map SheetSection.dump))]

end ExpectedDamage.Breakpoint
