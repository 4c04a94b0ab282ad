import ExpectedDamage.CommandLine.Command
import ExpectedDamage.CommandLine.Script
import ExpectedDamage.Spell.Selection
/-!
# Running a command line

Each command is a script over the library. `run` puts together the reading of the words,
the settings, and the script, and answers with everything that can be seen of it.
-/

namespace ExpectedDamage.CommandLine

open Record
open Script

def requireDice (s : Setup) (text : String) : Script Dice.Expression := do
  note s (Dice.parseNotices text)
  match ← computed (Dice.Expression.require? text) with
  | .ok e => return e
  | .error fault => fail fault.message

def statistics (s : Setup) (text : String) : Script Unit := do
  let e ← requireDice s text
  let average ← computed e.average?
  let canonical ← computed e.text?
  showOne (← computed (summaryTable? canonical average e.minimum e.maximum))

def roll (s : Setup) (text : String) (times : Nat) : Script Unit := do
  let e ← requireDice s text
  showOne (← computed (rollsTable? (e.rolls s.faces 0 times)))

/-- The statistics of a text under itself; zeros if it is no expression. -/
def summaryOf? (text : String) : Option Dice.Expression → Except ArithmeticFault Event
  | some e => do summaryTable? text (← e.average?) e.minimum e.maximum
  | none => summaryTable? text (.real 0) 0 0

def scale (s : Setup) (text : String) (baseLevel castLevel : Int) (rule : String) :
    Script Unit := do
  let _ ← requireDice s text
  note s (Dice.slotNotices text baseLevel castLevel (some rule))
  let scaled ← computed (Dice.scaleText? text baseLevel castLevel (some rule))
  note s (Dice.parseNotices scaled)
  let e ← computed (Dice.Expression.parse? scaled)
  showOne (← computed (summaryOf? scaled e))

def contextOf (s : Setup) (switches : ContextSwitches) : Script Combat.Context :=
  checked (s.settings.context.andThen fun c => c.withChanges switches.changes)

def spellsOf (s : Setup) (file : String) : Script (List Spell) := do
  let spells ← loaded file (Library.loadSpells s.folder file s.yaml)
  note s [Library.loadedNotice file spells]
  return spells

def analysesOf (s : Setup) (spells : List Spell) (context : Combat.Context)
    (castLevel : Option Int) : Script (List Spell.Analysis) :=
  spells.mapM fun spell => do
    note s (spell.analysisNotices castLevel)
    computed (spell.analyze? context castLevel)

def analyze (s : Setup) (file : String) (wanted : Option String) (filter : Spell.Filter)
    (castLevel : Option Int) (switches : ContextSwitches) (asJson : Bool) : Script Unit := do
  let spells := Spell.selectWanted wanted (filter.select (← spellsOf s file))
  if spells.isEmpty then fail "No matching spells found"
  else
    let context ← contextOf s switches
    let analyses ← analysesOf s spells context castLevel
    if asJson then writeJson (.list (analyses.map Spell.Analysis.dump))
    else analyses.forM fun a => do showOne (← computed (analysisPanel? a))

def compare (s : Setup) (file : String) (filter : Spell.Filter) (switches : ContextSwitches)
    (asJson : Bool) : Script Unit := do
  let spells := filter.select (← spellsOf s file)
  let context ← contextOf s switches
  let comparison := Spell.Comparison.ofAnalyses (← analysesOf s spells context none)
  if asJson then writeJson comparison.dump
  else showAll (comparisonEvents comparison)

/-- The rows of a ranking: zero leaves their number to the settings. -/
def rowLimit (asked : Option Int) (default : Int) : Int :=
  match asked with
  | some limit => if limit = 0 then default else limit
  | none => default

def best (s : Setup) (file : String) (slot : Int) (asked : Option Int)
    (switches : ContextSwitches) (asJson : Bool) : Script Unit := do
  let context ← contextOf s switches
  let eligible := (← spellsOf s file).filter (Spell.fitsSlot slot)
  let analyses ← analysesOf s eligible context (some slot)
  let ranked := Spell.upTo (rowLimit asked s.settings.topSpellsLimit) (Spell.bestOf analyses)
  if asJson then writeJson (.list (ranked.map Spell.Analysis.dump))
  else showOne (rankingTable ("Best Spells for a Level " ++ toString slot ++ " Slot") ranked)

def tiersOf (s : Setup) (context : Combat.Context) (spell : Spell) :
    Script (List Spell.CantripTier) :=
  Spell.tierLevels.mapM fun level => do
    note s (spell.tierNotices level)
    computed (spell.tier? context level)

def cantrip (s : Setup) (file : String) (switches : ContextSwitches) (asJson : Bool) :
    Script Unit := do
  let filter : Spell.Filter := { level := some 0, damagingOnly := true }
  let spells := filter.select (← spellsOf s file)
  if spells.isEmpty then showOne (infoText "No damage cantrips found")
  else
    let context ← contextOf s switches
    let tiers ← spells.mapM fun spell => do return (spell, ← tiersOf s context spell)
    let results := Spell.tiersByName tiers
    if asJson then
      writeJson (.object (results.map fun (name, ts) =>
        (name, .list (ts.map Spell.CantripTier.dump))))
    else showAll (results.flatMap fun (name, ts) => cantripLines name ts)

def showReport (report : Breakpoint.Report) : Script Unit := do
  showAll (featureEvents report)
  if let some pacing := report.spellPacing then showAll (← computed (pacingLines? pacing))
  showAll (recommendationEvents report)

def breakpoints (s : Setup) (file : String) (asSheet asJson : Bool) : Script Unit := do
  let character ← loaded file (Library.loadCharacter s.folder file s.yaml)
  let report ← computed (Breakpoint.report? character)
  note s [report.notice]
  if asSheet then
    let sheet ← computed (Breakpoint.cheatSheet? character report)
    if asJson then writeJson sheet.dump else showAll (sheetEvents sheet)
  else if asJson then writeJson report.dump
  else showReport report

def Command.script (s : Setup) : Command → Script Unit
  | statistics dice => CommandLine.statistics s dice
  | roll dice times => CommandLine.roll s dice times.val.toNat
  | scale dice baseLevel castLevel rule => CommandLine.scale s dice baseLevel castLevel rule
  | analyze file wanted level school castLevel context asJson =>
    CommandLine.analyze s file wanted { level, school } castLevel context asJson
  | compare file level context asJson =>
    CommandLine.compare s file { level, damagingOnly := true } context asJson
  | best file slot limit context asJson =>
    CommandLine.best s file slot.val limit context asJson
  | cantrip file context asJson => CommandLine.cantrip s file context asJson
  | breakpoints file asSheet asJson => CommandLine.breakpoints s file asSheet asJson

/-- How a command line ended. -/
inductive Result where
  | done (output : String)
  | noCommand (reason : NoCommand)
  /-- It failed with a printed reason. -/
  | failed
  | fault (fault : RunFault)
  deriving DecidableEq, Repr

/-- What can be seen of a run. -/
structure Outcome where
  result : Result
  shown : List Event
  deriving DecidableEq, Repr

namespace Outcome

def exitCode (o : Outcome) : Nat :=
  match o.result with
  | .done _ | .noCommand .helpWanted => 0
  | .noCommand _ => 2
  | .failed | .fault _ => 1

/-- The text that was written, if the run went well. -/
def output? (o : Outcome) : Option String :=
  match o.result with
  | .done output => some output
  | .noCommand .helpWanted => some ""
  | _ => none

def fault? (o : Outcome) : Option RunFault :=
  match o.result with
  | .fault fault => some fault
  | _ => none

def ofScript (script : Script Unit) : Outcome :=
  match script.run {} with
  | (.ok (), t) => ⟨.done t.output, t.events⟩
  | (.error .explained, t) => ⟨.failed, t.events⟩
  | (.error (.fault fault), t) => ⟨.fault fault, t.events⟩

end Outcome

/-- What a command line depends on beside its words. -/
structure Surroundings where
  folder : Library.Folder
  environment : List (String × String)
  faces : Dice.Faces

def settingsFault : Library.SettingsFault → RunFault
  | .invalid problems => .invalid problems
  | .undecodable => .undecodable

def Surroundings.setup (s : Surroundings) (settings : Library.Settings) (debug : Bool)
    (yaml : Document.Yaml.Reader) : Setup :=
  ⟨settings, s.folder, yaml, s.faces, if debug then .debug else settings.effectiveLevel⟩

def Invocation.run (s : Surroundings) (i : Invocation) (yaml : Document.Yaml.Reader) : Outcome :=
  match Library.loadSettings s.environment s.folder with
  | .error fault => ⟨.fault (settingsFault fault), []⟩
  | .ok settings =>
    match i.group.read i.words with
    | .error reason => ⟨.noCommand reason, []⟩
    | .ok command => Outcome.ofScript (command.script (s.setup settings i.debug yaml))

/-- The outcome of a command line. -/
def run (s : Surroundings) (words : List String)
    (yaml : Document.Yaml.Reader := Document.Yaml.read) : Outcome :=
  match Invocation.read words with
  | .error reason => ⟨.noCommand reason, []⟩
  | .ok invocation => invocation.run s yaml

end ExpectedDamage.CommandLine
