import ExpectedDamage.Breakpoint.CheatSheet
import ExpectedDamage.CommandLine.Event
import ExpectedDamage.Dice.Roll
import ExpectedDamage.Dice.Statistics
import ExpectedDamage.Number.WholeText
import ExpectedDamage.Spell.CantripTier
import ExpectedDamage.Spell.Ranking
/-!
# Displays

How results are laid out as events. Displays only choose texts; every figure in them
is already rounded. A display of whole numbers without a bound is refused when one of
them has too many digits.
-/

namespace ExpectedDamage.CommandLine

open Spell (Analysis Damage)

def marked (style text : String) : String := "[" ++ style ++ "]" ++ text ++ "[/" ++ style ++ "]"

def lines (texts : List String) : String := "\n".intercalate texts

def errorText (message : String) : Event := .text (marked "bold red" "Error:" ++ " " ++ message)

def successText (message : String) : Event := .text (marked "bold green" message)

def infoText (message : String) : Event := .text (marked "dim" message)

/-- The statistics of an expression, under its text. A whole average is shown as the nearest
figure. -/
def summaryTable? (canonical : String) (average : Amount) (minimum maximum : Int) :
    Except ArithmeticFault Event := do
  let figure ← average.toReal?
  WholeText.showing? [minimum, maximum] <| .table
    { title := "Dice: " ++ canonical
      columns := [⟨"Average", .right, "cyan"⟩, ⟨"Minimum", .right, ""⟩, ⟨"Maximum", .right, ""⟩]
      rows := [⟨[Layout.brief.text figure, toString minimum, toString maximum], none⟩] }

/-- Items with their numbers, counted from one. -/
def numbered {α : Type} (items : List α) : List (Nat × α) :=
  items.zipIdx.map fun (item, i) => (i + 1, item)

def numberList (ns : List Int) : String := ", ".intercalate (ns.map toString)

def rollsTable? (rolls : List Dice.Roll) : Except ArithmeticFault Event :=
  WholeText.showing? (rolls.flatMap Dice.Roll.numbers) <| .table
    { title := "Rolls"
      columns :=
        [⟨"#", .right, "dim"⟩, ⟨"Kept", .left, ""⟩, ⟨"Dropped", .left, "dim"⟩,
         ⟨"Total", .right, "bold cyan"⟩]
      rows := (numbered rolls).map fun (number, r) =>
        ⟨[toString number, if r.kept.isEmpty then "-" else numberList r.kept,
          numberList r.discarded, toString r.total], none⟩ }

def ratingColor : Spell.Rating → String
  | .excellent => "bright_green"
  | .good => "green"
  | .average => "yellow"
  | .poor => "red"

def markedRating (r : Spell.Rating) : String := marked (ratingColor r) r.name

def analysisHeading (a : Analysis) : String :=
  let level := a.spell.level.val
  marked "bold" a.spell.name ++ " "
    ++ marked "dim" ("(" ++ (if level = 0 then "Cantrip" else "Level " ++ toString level) ++ ")")

def pickerNote : TypePicker → String
  | .nobody => ""
  | .caster => " (choice)"
  | .chance => " (random)"

def damageLines (d : Damage) : List String :=
  ["Damage: " ++ marked "cyan" d.roll ++ " (avg " ++ Layout.brief.text d.average ++ ", "
    ++ toString d.minimum ++ "-" ++ toString d.maximum ++ ")"]
  ++ (d.correctionNote.map (marked "dim")).toList
  ++ [(if d.saveForHalf then "Save fail" else "Success") ++ " chance: " ++ toString d.chance ++ "%",
    "Expected: " ++ marked "bold" d.expected.text ++ " per target x " ++ toString d.targets
      ++ " (max " ++ toString d.maxTargets ++ ") = " ++ marked "bold cyan" d.total.text]
  ++ (d.sustained.map fun x => "Sustained (concentration): " ++ x.text).toList
  ++ (d.chain.map fun c =>
      "Chain: " ++ c.chain.description ++ " (+" ++ c.bonus.text ++ ")").toList
  ++ (if d.types.types.isEmpty then []
    else ["Types: " ++ ", ".intercalate d.types.types ++ pickerNote d.types.picker])

def efficiencyLines (d : Damage) : List String :=
  ["",
   "Efficiency: " ++ markedRating d.slotRating.rating ++ " (" ++ d.perSlotLevel.text
    ++ " per slot level)",
   "vs cantrip: x" ++ d.versusCantrip.ratio.text
    ++ (if d.versusCantrip.worthSlot then " - worth a slot" else "")]

def tacticLines (d : Damage) : List String :=
  if d.tactics.notes.isEmpty then [] else "" :: d.tactics.notes.map ("  - " ++ ·)

def analysisPanel? (a : Analysis) : Except ArithmeticFault Event :=
  match a.verdict with
  | .harmless reason =>
    .ok (.panel { text := lines [analysisHeading a, marked "dim" reason.note], border := "dim" })
  | .damaging d =>
    WholeText.showing? [d.minimum, d.maximum] <| .panel
      { text := lines (analysisHeading a :: damageLines d ++ efficiencyLines d ++ tacticLines d)
        border := "cyan" }

def rankingRow (number : Nat) (a : Analysis) : TableRow :=
  let start := [toString number, a.spell.name, toString a.spell.level.val]
  match a.damage? with
  | none => ⟨start ++ ["-", "", "", "", "", ""], none⟩
  | some d =>
    ⟨start ++ [d.roll, toString d.chance ++ "%", toString d.targets, d.total.text,
      d.perSlotLevel.text, markedRating d.slotRating.rating], none⟩

def rankingTable (title : String) (analyses : List Analysis) : Event :=
  if analyses.isEmpty then infoText "No spells to rank."
  else
    .table
      { title
        columns :=
          [⟨"#", .right, "dim"⟩, ⟨"Spell", .left, "white"⟩, ⟨"Lvl", .center, ""⟩,
           ⟨"Damage", .left, "cyan"⟩, ⟨"Chance", .right, ""⟩, ⟨"Targets", .right, ""⟩,
           ⟨"Total", .right, "bold"⟩, ⟨"Per Slot", .right, ""⟩, ⟨"Rating", .left, ""⟩]
        rows := (numbered analyses).map fun (number, a) => rankingRow number a }

def comparisonEvents (c : Spell.Comparison) : List Event :=
  [rankingTable "Spells by Expected Damage" c.ranked]
  ++ (c.bestDamage.filter (· ≠ "") |>.map fun name => successText ("Most damage: " ++ name)).toList
  ++ (c.bestEfficiency.filter (· ≠ "") |>.map fun name =>
      infoText ("Best per slot level: " ++ name)).toList

/-- A text filled up with spaces on its right. -/
def padRight (width : Nat) (s : String) : String := s.pushn ' ' (width - s.length)

/-- A text filled up with spaces on its left. -/
def padLeft (width : Nat) (s : String) : String := "".pushn ' ' (width - s.length) ++ s

def tierLine (t : Spell.CantripTier) : Event :=
  let damage := t.analysis.damage?
  .text ("  Level " ++ padLeft 2 (toString t.level.val) ++ ": "
    ++ padRight 8 ((damage.map Damage.roll).filter (· ≠ "") |>.getD "-")
    ++ " expected " ++ t.analysis.total.text)

def cantripLines (name : String) (tiers : List Spell.CantripTier) : List Event :=
  .text ("\n" ++ marked "bold" name) :: tiers.map tierLine

open Breakpoint

def sweepTable (title modified : String) (t : Breakpoint.Table) : Event :=
  .table
    { title := title ++ " (breakpoint AC " ++ toString t.breakpoint ++ ")"
      columns :=
        [⟨"AC", .right, ""⟩, ⟨"Normal", .right, ""⟩, ⟨modified, .right, ""⟩, ⟨"Diff", .right, ""⟩,
         ⟨"Use?", .center, ""⟩]
      rows := t.rows.map fun r =>
        ⟨[toString r.armor, r.baseline.fixedText 2, r.modified.fixedText 2,
          r.difference.signedText 2, if r.recommended then "yes" else "no"],
         some (if r.recommended then "green" else "dim")⟩ }

def powerAttackTables (p : PowerAttack) : List Event :=
  [sweepTable p.feat p.feat p.normal,
   sweepTable (p.feat ++ " with advantage") p.feat p.withAdvantage]

def stunningStrikeTable (s : StunningStrikes) : Event :=
  .table
    { title := "Stunning Strike"
      columns :=
        [⟨"Target CON", .left, ""⟩, ⟨"DC", .right, ""⟩, ⟨"Fail %", .right, ""⟩,
         ⟨"Use?", .center, ""⟩, ⟨"Reasoning", .left, ""⟩]
      rows := [("Bad", s.bad), ("Average", s.average), ("Good", s.good)].map fun (label, strike) =>
        ⟨[label, toString strike.difficulty, toString strike.failPercent ++ "%",
          if strike.recommended then "yes" else "no", strike.reasoning], none⟩ }

def smiteTable (s : Smite) : Event :=
  .table
    { title := "Divine Smite (" ++ (if s.isCrit then "crit" else "hit") ++ ")"
      caption := some s.advice
      columns :=
        [⟨"Slot", .center, ""⟩, ⟨"Damage", .right, ""⟩, ⟨"Kill?", .center, ""⟩,
         ⟨"Advice", .left, ""⟩]
      rows := s.options.map fun o =>
        ⟨[toString o.slotLevel, Layout.brief.text o.damage, if o.canKill then "yes" else "",
          o.advice], none⟩ }

/-- The line on the slots of a day. -/
def pacingText (p : Pacing) : String :=
  marked "bold" "Spell pacing:" ++ " " ++ toString p.totalSlots ++ " slots over "
    ++ toString p.encounters ++ " encounters (" ++ p.slotsPerEncounter.text ++ " each)"

def pacingLines? (p : Pacing) : Except ArithmeticFault (List Event) :=
  WholeText.showing? [p.totalSlots, p.encounters]
    (.text (pacingText p) :: p.recommendations.map fun line => .text ("  - " ++ line))

def featureEvents (r : Report) : List Event :=
  let c := r.character
  [.text "",
   .panel
    { text := marked "bold cyan" c.name ++ " - Level " ++ toString c.level.val ++ " "
        ++ c.className.getD ""
      style := "cyan" }]
  ++ (r.powerAttack.map powerAttackTables).getD []
  ++ (r.recklessAttack.map (sweepTable "Reckless Attack" "Reckless")).toList
  ++ (r.stunningStrike.map stunningStrikeTable).toList
  ++ ((r.divineSmite.map fun s => [smiteTable s.onCrit, smiteTable s.onHit]).getD [])

def recommendationEvents (r : Report) : List Event :=
  if r.recommendations.isEmpty then []
  else
    [.text "", .text (marked "underline" "Recommendations")]
    ++ r.recommendations.map fun line => .text ("  - " ++ line)

def priorityColor : Priority → String
  | .high => "green"
  | .medium => "yellow"
  | .low => "red"

def ruleLine (r : SheetRule) : String :=
  marked (priorityColor r.priority) r.condition ++ ": " ++ r.action

def sectionPanel (s : SheetSection) : Event :=
  match s.kind with
  | .header => .panel { text := marked "bold" (s.content.getD ""), style := "cyan" }
  | _ =>
    .panel
      { text := lines (s.items
          ++ s.rules.map ruleLine ++ s.modifiers.map (marked "dim") ++ s.notes.map ("- " ++ ·))
        title := s.title
        border := "dim" }

def sheetEvents (s : CheatSheet) : List Event := s.sections.map sectionPanel

end ExpectedDamage.CommandLine
