import ExpectedDamage.CommandLine.Run
import ExpectedDamage.Proofs.Record.Outcome
import ExpectedDamage.Proofs.Record.Reload
/-!
# The context that a command starts from

Settings are any whole numbers, but a context keeps its fields in range. Without switches a
command starts from the context that has the settings for its fields if they are in range; if
they are not, it ends with the problems of those that are out of range
(`contextOf_without_switches`). So settings that were loaded may still fail a command.
-/

namespace ExpectedDamage

open Record

namespace Library.Settings

/-- The settings that a context can take. -/
structure InRange (s : Settings) : Prop where
  casterLevel : 1 ≤ s.casterLevel ∧ s.casterLevel ≤ 20
  expectedTargets : 1 ≤ s.expectedTargets
  expectedEncounters : 1 ≤ s.expectedEncounters

theorem inRange_iff {s : Settings} : s.InRange ↔
    (1 ≤ s.casterLevel ∧ s.casterLevel ≤ 20) ∧ 1 ≤ s.expectedTargets ∧
      1 ≤ s.expectedEncounters :=
  ⟨fun h => ⟨h.casterLevel, h.expectedTargets, h.expectedEncounters⟩,
    fun h => ⟨h.1, h.2.1, h.2.2⟩⟩

instance (s : Settings) : Decidable s.InRange := decidable_of_iff' _ inRange_iff

/-- A context with the settings for the fields that are configured. -/
def configure (s : Settings) (h : s.InRange) (base : Combat.Context) : Combat.Context :=
  { base with
    proficiencyBonus := s.proficiencyBonus
    abilityModifier := s.abilityModifier
    casterLevel := ⟨s.casterLevel, h.casterLevel⟩
    targetArmor := s.targetArmor
    expectedTargets := ⟨s.expectedTargets, h.expectedTargets⟩
    expectedEncounters := ⟨s.expectedEncounters, h.expectedEncounters⟩
    clustered := s.clustered }

/-- The problem of a number that is below one. -/
def countProblems (key : String) (n : Int) : List Problem :=
  if 1 ≤ n then [] else [⟨[key], .tooSmall⟩]

def levelProblems (n : Int) : List Problem :=
  if 1 ≤ n ∧ n ≤ 20 then []
  else if n < 1 then [⟨["caster_level"], .tooSmall⟩]
  else [⟨["caster_level"], .tooLarge⟩]

/-- The problems of the settings that are out of range. -/
def rangeProblems (s : Settings) : List Problem :=
  levelProblems s.casterLevel ++ countProblems "expected_targets" s.expectedTargets ++
    countProblems "expected_encounters" s.expectedEncounters

theorem countProblems_eq_nil_iff {key : String} {n : Int} :
    countProblems key n = [] ↔ 1 ≤ n := by
  simp [countProblems]

theorem levelProblems_eq_nil_iff {n : Int} : levelProblems n = [] ↔ 1 ≤ n ∧ n ≤ 20 := by
  rw [levelProblems]
  split
  · next h => exact iff_of_true rfl h
  · next h =>
      refine iff_of_false ?_ h
      split <;> exact List.cons_ne_nil _ _

theorem rangeProblems_eq_nil_iff {s : Settings} : s.rangeProblems = [] ↔ s.InRange := by
  rw [rangeProblems, List.append_eq_nil_iff, List.append_eq_nil_iff, levelProblems_eq_nil_iff,
    countProblems_eq_nil_iff, countProblems_eq_nil_iff, and_assoc, inRange_iff]

theorem problems_asAtLeast (key : String) (n : Int) :
    ((Value.asAtLeast 1 (.int n)).under key).problems = countProblems key n := by
  rw [Value.asAtLeast, Value.asInt, Checked.andThen, countProblems]
  split <;> rfl

theorem problems_asLevel (n : Int) :
    ((Value.asBetween 1 20 (.int n)).under "caster_level").problems = levelProblems n := by
  rw [Value.asBetween, Value.asInt, Checked.andThen, levelProblems]
  split
  · rfl
  · split <;> rfl

/-- Only three of the settings are checked. -/
theorem context_eq (s : Settings) : s.context = Combat.Context.mk
    <$> .ok s.proficiencyBonus <*> .ok s.abilityModifier
    <*> (Value.asBetween 1 20 (.int s.casterLevel)).under "caster_level"
    <*> .ok s.targetArmor <*> .ok {}
    <*> (Value.asAtLeast 1 (.int s.expectedTargets)).under "expected_targets"
    <*> .ok ({} : Combat.Context).expectedDuration
    <*> (Value.asAtLeast 1 (.int s.expectedEncounters)).under "expected_encounters"
    <*> .ok s.clustered :=
  rfl

theorem problems_context (s : Settings) : s.context.problems = s.rangeProblems := by
  simp only [context_eq, Checked.problems_seq, Checked.problems_map, Checked.problems_ok,
    problems_asLevel, problems_asAtLeast, List.nil_append, List.append_nil, rangeProblems]

theorem context_eq_ok {s : Settings} (h : s.InRange) : s.context = .ok (s.configure h {}) := by
  have level := ReadsBack.asBetween 1 20 ⟨s.casterLevel, h.casterLevel⟩
  have targets := ReadsBack.asAtLeast 1 ⟨s.expectedTargets, h.expectedTargets⟩
  have encounters := ReadsBack.asAtLeast 1 ⟨s.expectedEncounters, h.expectedEncounters⟩
  simp only [context_eq, level, targets, encounters, Checked.under_ok, Checked.map_ok,
    Checked.seq_ok_ok, configure]

theorem context_eq_refused {s : Settings} (h : ¬ s.InRange) :
    s.context = .refused s.rangeProblems := by
  rw [← problems_context]
  apply Checked.eq_refused_problems
  rw [problems_context]
  exact fun hnil => h (rangeProblems_eq_nil_iff.1 hnil)

end Library.Settings

namespace CommandLine

theorem withChanges_without_switches (c : Combat.Context) :
    c.withChanges ({} : ContextSwitches).changes = .ok c := rfl

/-- Without switches a command starts from the usual context, configured by the settings, if
these are in range. If they are not, it ends with the problems of those that are out of range. -/
theorem contextOf_without_switches (s : Setup) : contextOf s {} =
    if h : s.settings.InRange then pure (s.settings.configure h {})
    else throw (.fault (.invalid s.settings.rangeProblems)) := by
  rw [contextOf]
  split
  · next h =>
      rw [Library.Settings.context_eq_ok h, Checked.andThen, withChanges_without_switches]
      rfl
  · next h =>
      rw [Library.Settings.context_eq_refused h]
      rfl

/-- A level that no character has is loaded all the same. -/
example : (Library.loadSettings [("DPRCALC_CASTER_LEVEL", "25")] ⟨[]⟩).toOption.map
    (fun s => (s.casterLevel, decide s.InRange)) = some (25, false) := by
  decide +kernel

end CommandLine

end ExpectedDamage
