import ExpectedDamage.CommandLine.Arguments
import ExpectedDamage.Record.Value
/-!
# Commands

The commands stand in three groups. The words of a command line are read in two steps,
first up to the name of the group and then the rest, because settings are loaded in
between.
-/

namespace ExpectedDamage.CommandLine

open Record

/-- What the switches say about the context. -/
structure ContextSwitches where
  targetArmor : Option Int := none
  targets : Option Int := none
  casterLevel : Option Int := none
  clustered : Option Bool := none
  deriving DecidableEq, Repr

def ContextSwitches.changes (c : ContextSwitches) : List (String × Value) :=
  [("target_ac", .ofOption .int c.targetArmor),
   ("expected_targets", .ofOption .int c.targets),
   ("caster_level", .ofOption .int c.casterLevel),
   ("clustered", .ofOption .bool c.clustered)]

/-- A command with its arguments. Results are shown as tables and panels, or as JSON where
a command has the choice. -/
inductive Command where
  | statistics (dice : String)
  | roll (dice : String) (times : AtLeast 1)
  | scale (dice : String) (baseLevel castLevel : Int) (rule : String)
  | analyze (file : String) (wanted : Option String) (level : Option Int) (school : Option String)
    (castLevel : Option Int) (context : ContextSwitches) (asJson : Bool)
  | compare (file : String) (level : Option Int) (context : ContextSwitches) (asJson : Bool)
  | best (file : String) (slot : Between 1 9) (limit : Option Int) (context : ContextSwitches)
    (asJson : Bool)
  | cantrip (file : String) (context : ContextSwitches) (asJson : Bool)
  | breakpoints (file : String) (asSheet asJson : Bool)
  deriving DecidableEq, Repr

/-- A command before its arguments are read. -/
structure CommandForm where
  name : String
  switches : List Switch
  read : Arguments → Except NoCommand Command

namespace CommandForm

def jsonSwitch : Switch := ⟨"json", "--json", none, .flag true⟩

def levelSwitch : Switch := ⟨"level", "--level", some 'l', .text⟩

def targetSwitches : List Switch :=
  [⟨"armor", "--target-ac", some 'a', .text⟩, ⟨"targets", "--targets", some 't', .text⟩]

def contextSwitches : List Switch :=
  targetSwitches ++
    [⟨"caster level", "--caster-level", none, .text⟩,
     ⟨"clustered", "--clustered", none, .flag true⟩,
     ⟨"clustered", "--spread", none, .flag false⟩]

def readContext (a : Arguments) : Except NoCommand ContextSwitches := do
  return {
    targetArmor := ← a.number? "armor"
    targets := ← a.number? "targets"
    casterLevel := ← a.number? "caster level"
    clustered := a.flag? "clustered" }

def statistics : CommandForm where
  name := "stats"
  switches := []
  read a := .statistics <$> a.operand

def roll : CommandForm where
  name := "roll"
  switches := [⟨"times", "--times", some 'n', .text⟩]
  read a := do
    let times := (← a.number? "times").getD 1
    let dice ← a.operand
    if h : 1 ≤ times then return .roll dice ⟨times, h⟩ else throw .outOfRange

def scale : CommandForm where
  name := "scale"
  switches :=
    [⟨"base", "--base", some 'b', .text⟩, ⟨"cast", "--cast", some 'c', .text⟩,
     ⟨"rule", "--rule", some 'r', .text⟩]
  read a := do
    let baseLevel ← required (← a.number? "base")
    let castLevel ← required (← a.number? "cast")
    return .scale (← a.operand) baseLevel castLevel (← required (a.text? "rule"))

def analyze : CommandForm where
  name := "analyze"
  switches :=
    [⟨"spell", "--spell", some 's', .text⟩, levelSwitch, ⟨"school", "--school", none, .text⟩,
     ⟨"cast level", "--cast-level", some 'c', .text⟩, jsonSwitch] ++ contextSwitches
  read a := do
    return .analyze (← a.operand) (a.text? "spell") (← a.number? "level") (a.text? "school")
      (← a.number? "cast level") (← readContext a) (a.isOn "json")

def compare : CommandForm where
  name := "compare"
  switches := [levelSwitch, jsonSwitch] ++ contextSwitches
  read a := do
    return .compare (← a.operand) (← a.number? "level") (← readContext a) (a.isOn "json")

def best : CommandForm where
  name := "best"
  switches :=
    [⟨"slot", "--slot", none, .text⟩, ⟨"limit", "--limit", some 'n', .text⟩, jsonSwitch]
      ++ contextSwitches
  read a := do
    let slot ← required (← a.number? "slot")
    let limit ← a.number? "limit"
    let file ← a.operand
    let context ← readContext a
    if h : 1 ≤ slot ∧ slot ≤ 9 then return .best file ⟨slot, h⟩ limit context (a.isOn "json")
    else throw .outOfRange

def cantrip : CommandForm where
  name := "cantrip"
  switches := targetSwitches ++ [jsonSwitch]
  read a := do return .cantrip (← a.operand) (← readContext a) (a.isOn "json")

def breakpoints : CommandForm where
  name := "breakpoints"
  switches := [⟨"sheet", "--cheatsheet", none, .flag true⟩, jsonSwitch]
  read a := do return .breakpoints (← a.operand) (a.isOn "sheet") (a.isOn "json")

end CommandForm

/-- A group of commands. -/
inductive Group where
  | dice
  | spells
  | character
  deriving DecidableEq, Repr

namespace Group

def ofName? : String → Option Group
  | "dice" => some dice
  | "spells" => some spells
  | "character" => some character
  | _ => none

open CommandForm in
def commands : Group → List CommandForm
  | dice => [statistics, roll, scale]
  | spells => [analyze, compare, best, cantrip]
  | character => [breakpoints]

def read (g : Group) (words : List String) : Except NoCommand Command := do
  let a ← readWords [] false words
  match a.operands with
  | [] => throw .missingCommand
  | name :: rest =>
    match g.commands.find? (·.name == name) with
    | none => throw .unknownCommand
    | some form => form.read (← readWords form.switches true rest)

end Group

/-- A command line up to the name of its group. -/
structure Invocation where
  debug : Bool
  group : Group
  words : List String
  deriving DecidableEq, Repr

def Invocation.read (words : List String) : Except NoCommand Invocation := do
  let a ← readWords [⟨"debug", "--debug", none, .flag true⟩] false words
  match a.operands with
  | [] => throw .missingCommand
  | name :: rest =>
    match Group.ofName? name with
    | none => throw .unknownCommand
    | some group => return ⟨a.isOn "debug", group, rest⟩

end ExpectedDamage.CommandLine
