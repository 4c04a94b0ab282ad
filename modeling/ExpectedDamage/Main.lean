import ExpectedDamage.CommandLine.Plain
import ExpectedDamage.CommandLine.Run
/-!
# The program

Collects what a command line depends on, runs it, and prints what it shows.
-/

namespace ExpectedDamage.Program

open Library (Entry)

/-- The variables that settings are read from. -/
def settingNames : List String :=
  ["PROFICIENCY_BONUS", "ABILITY_MODIFIER", "CASTER_LEVEL", "TARGET_AC", "EXPECTED_TARGETS",
   "EXPECTED_ENCOUNTERS", "CLUSTERED", "TOP_SPELLS_LIMIT", "DEBUG", "LOG_LEVEL"].map
    ("DPRCALC_" ++ ·)

/-- The settings among the variables of the process. -/
def environment : IO (List (String × String)) :=
  settingNames.filterMapM fun name => do return (← IO.getEnv name).map fun value => (name, value)

/-- What a path leads to, if it leads to anything. -/
def entry? (path : String) : IO (Option (String × Entry)) := do
  try
    return some (path, .file (← IO.FS.readBinFile path))
  catch
    | .inappropriateType .. => return some (path, .directory)
    | _ => return none

/-- The files that a command line can name, and the file of settings. -/
def folder (words : List String) : IO Library.Folder := do
  return ⟨← (".env" :: words).filterMapM entry?⟩

/-- A stream of faces from random bytes, which it uses over and over. -/
def faces : IO Dice.Faces := do
  let bytes ← IO.getRandomBytes 65536
  return fun i =>
    (List.range 8).foldl (fun face k =>
      256 * face + (bytes[(8 * i + k) % bytes.size]?.getD 0).toNat) 0

def faultText : CommandLine.RunFault → String
  | .invalid problems => Record.Problem.texts problems
  | .arithmetic .overflow => "a number is too large"
  | .arithmetic .zeroDivisor => "division by zero"
  | .arithmetic .notANumber => "a value is not a number"
  | .arithmetic .tooLong => "a number has too many digits"
  | .undecodable => "a file is not UTF-8 text"
  | .partless => "a value has no parts"

end ExpectedDamage.Program

open ExpectedDamage Program in
def main (words : List String) : IO UInt32 := do
  let outcome := CommandLine.run ⟨← folder words, ← environment, ← faces⟩ words
  for event in outcome.shown do
    for line in event.plainLines do IO.println line
  IO.print (outcome.output?.getD "")
  if let some fault := outcome.fault? then IO.eprintln (faultText fault)
  return UInt32.ofNat outcome.exitCode
