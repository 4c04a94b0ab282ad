import ExpectedDamage.CommandLine.Run
import ExpectedDamage.Proofs.Number.Success
/-!
# What a script shows

The steps of a script that read, note and calculate only put notices into the transcript, so
they can be passed over (`Answers`). What is left of a run is how it ends and what it shows
apart from notices (`Concludes`); whichever notices are shown is a matter of their level.
-/

namespace ExpectedDamage.CommandLine

open Record

/-- Whether an event is more than a notice. -/
def Event.isDisplay : Event → Bool
  | .notice _ => false
  | _ => true

/-- What a run has shown apart from notices. -/
def Outcome.displays (o : Outcome) : List Event := o.shown.filter Event.isDisplay

namespace Outcome

/-- The outcome of a script that has been run. -/
def ofRun : Except Ending Unit × Transcript → Outcome
  | (.ok (), t) => ⟨.done t.output, t.events⟩
  | (.error .explained, t) => ⟨.failed, t.events⟩
  | (.error (.fault fault), t) => ⟨.fault fault, t.events⟩

theorem ofScript_eq (script : Script Unit) : ofScript script = ofRun (script.run {}) := by
  rw [ofScript]
  split <;> next heq => rw [heq, ofRun]

/-- A run that went well and wrote a value. -/
def Writes (o : Outcome) (v : Value) : Prop :=
  ∃ text, Document.Json.text? .indented v = .ok text ∧ o.result = .done (text ++ "\n")

end Outcome

/-- How a run ends that goes well up to writing a value: with the text of the value, or with a
fault if a number of it has too many digits. -/
def Result.ofJson (v : Value) : Result :=
  match Document.Json.text? .indented v with
  | .ok text => .done (text ++ "\n")
  | .error reason => .fault (.arithmetic reason)

/-- What is written by writing a value is another value exactly if both have the same text. -/
theorem Outcome.writes_iff {o : Outcome} {u v : Value} (h : o.result = .ofJson u) :
    o.Writes v ↔ ∃ text, Document.Json.text? .indented u = .ok text ∧
      Document.Json.text? .indented v = .ok text := by
  rw [Writes, h, Result.ofJson]
  cases Document.Json.text? .indented u with
  | error reason => exact iff_of_false (fun ⟨_, _, h⟩ => nomatch h) (fun ⟨_, h, _⟩ => nomatch h)
  | ok written =>
      constructor
      · rintro ⟨text, htext, hdone⟩
        have hsame : written = text := (String.append_left_inj _).1 (Result.done.inj hdone)
        exact ⟨text, congrArg Except.ok hsame, htext⟩
      · rintro ⟨text, hwritten, htext⟩
        exact ⟨text, htext, by rw [Except.ok.inj hwritten]⟩

theorem Outcome.writes_self_iff {o : Outcome} {v : Value} (h : o.result = .ofJson v) :
    o.Writes v ↔ ∀ n ∈ Document.Json.wholes v, WholeText.Fits n := by
  rw [Outcome.writes_iff h]
  constructor
  · rintro ⟨text, htext, -⟩
    exact (WholeText.showing?_eq_ok_iff.1 htext).1
  · intro hfits
    have htext : Document.Json.text? .indented v = .ok (Document.Json.text .indented v) :=
      WholeText.showing?_eq_ok_iff.2 ⟨hfits, rfl⟩
    exact ⟨_, htext, htext⟩

namespace Script

variable {α β : Type}

/-- A script answers without showing more than notices. -/
def Answers (script : Script α) (a : α) : Prop :=
  ∀ t, ∃ events, script.run t = (.ok a, { t with events := t.events ++ events }) ∧
    events.filter Event.isDisplay = []

/-- A script ends a run that has written nothing before, and shows some events that are more than
notices. -/
def Concludes (script : Script Unit) (result : Result) (displays : List Event) : Prop :=
  ∀ before, ∃ events, Outcome.ofRun (script.run ⟨before, ""⟩) = ⟨result, before ++ events⟩ ∧
    events.filter Event.isDisplay = displays

theorem Concludes.outcome {script : Script Unit} {result : Result} {displays : List Event}
    (h : script.Concludes result displays) :
    (Outcome.ofScript script).result = result ∧
      (Outcome.ofScript script).displays = displays := by
  obtain ⟨events, hrun, hdisplays⟩ := h []
  have hofScript : Outcome.ofScript script = ⟨result, events⟩ :=
    (Outcome.ofScript_eq script).trans hrun
  exact ⟨congrArg Outcome.result hofScript, by rw [Outcome.displays, hofScript, hdisplays]⟩

/-! Steps. -/

theorem run_bind_of_ok {x : Script α} {f : α → Script β} {a : α} {t t' : Transcript}
    (h : x.run t = (.ok a, t')) : (x >>= f).run t = (f a).run t' := by
  change (let (r, after) := x.run t; ExceptT.bindCont f r after) = _
  rw [h]
  rfl

theorem answers_pure (a : α) : Answers (pure a) a :=
  fun t => ⟨[], by rw [List.append_nil]; rfl, rfl⟩

theorem Answers.bind {x : Script α} {f : α → Script β} {a : α} {b : β} (hx : x.Answers a)
    (hf : (f a).Answers b) : (x >>= f).Answers b := by
  intro t
  obtain ⟨events, hrun, hquiet⟩ := hx t
  obtain ⟨more, hrun', hquiet'⟩ := hf { t with events := t.events ++ events }
  refine ⟨events ++ more, ?_, by rw [List.filter_append, hquiet, hquiet', List.append_nil]⟩
  rw [run_bind_of_ok hrun, hrun', List.append_assoc]

theorem Answers.concludes {x : Script α} {f : α → Script Unit} {a : α} {result : Result}
    {displays : List Event} (hx : x.Answers a) (hf : (f a).Concludes result displays) :
    (x >>= f).Concludes result displays := by
  intro before
  obtain ⟨events, hrun, hquiet⟩ := hx ⟨before, ""⟩
  obtain ⟨more, hrun', hdisplays⟩ := hf (before ++ events)
  refine ⟨events ++ more, ?_, by rw [List.filter_append, hquiet, hdisplays, List.nil_append]⟩
  rw [run_bind_of_ok hrun, hrun', List.append_assoc]

theorem answers_mapM {f : α → Script β} {items : List α} {results : List β}
    (h : List.Forall₂ (fun item result => (f item).Answers result) items results) :
    (items.mapM f).Answers results := by
  induction h with
  | nil => exact answers_pure []
  | cons hitem _ ih =>
      rw [List.mapM_cons]
      exact hitem.bind (ih.bind (answers_pure _))

theorem answers_note (s : Setup) (notices : List Notice) : (note s notices).Answers () := by
  intro t
  refine ⟨_, rfl, List.filter_eq_nil_iff.2 fun event hevent => ?_⟩
  obtain ⟨notice, -, rfl⟩ := List.mem_map.1 hevent
  exact Bool.false_ne_true

theorem answers_computed {x : Except ArithmeticFault α} {a : α} (h : x = .ok a) :
    (computed x).Answers a := by
  rw [h]
  exact answers_pure a

theorem answers_checked {x : Checked α} {a : α} (h : x = .ok a) : (checked x).Answers a := by
  rw [h]
  exact answers_pure a

theorem answers_loaded {x : Except Library.LoadFault α} {a : α} (path : String) (h : x = .ok a) :
    (loaded path x).Answers a := by
  rw [h]
  exact answers_pure a

/-! Ends. -/

theorem concludes_showAll (events : List Event) :
    (showAll events).Concludes (.done "") (events.filter Event.isDisplay) :=
  fun _ => ⟨events, rfl, rfl⟩

theorem concludes_writeJson (v : Value) : (writeJson v).Concludes (.ofJson v) [] := by
  intro before
  refine ⟨[], ?_, rfl⟩
  rw [Result.ofJson, List.append_nil]
  cases htext : Document.Json.text? .indented v with
  | ok text =>
      rw [writeJson, run_bind_of_ok (by rw [htext]; rfl)]
      rfl
  | error fault =>
      rw [writeJson, htext]
      rfl

end Script

/-! Command lines. -/

/-- The words ask for a command, under the given setup. -/
def Surroundings.Asks (s : Surroundings) (words : List String) (setup : Setup)
    (command : Command) : Prop :=
  ∃ invocation settings, Invocation.read words = .ok invocation ∧
    Library.loadSettings s.environment s.folder = .ok settings ∧
    invocation.group.read invocation.words = .ok command ∧
    s.setup settings invocation.debug setup.yaml = setup

theorem run_of_asks {s : Surroundings} {words : List String} {setup : Setup} {command : Command}
    (h : s.Asks words setup command) :
    run s words setup.yaml = Outcome.ofScript (command.script setup) := by
  obtain ⟨invocation, settings, hread, hsettings, hcommand, hsetup⟩ := h
  rw [run, hread]
  simp only [Invocation.run, hsettings, hcommand, hsetup]

theorem answers_contextOf {s : Setup} {switches : ContextSwitches} {context : Combat.Context}
    (h : (s.settings.context.andThen fun c => c.withChanges switches.changes) = .ok context) :
    (contextOf s switches).Answers context :=
  Script.answers_checked h

theorem answers_spellsOf {s : Setup} {file : String} {spells : List Spell}
    (h : Library.loadSpells s.folder file s.yaml = .ok spells) :
    (spellsOf s file).Answers spells :=
  (Script.answers_loaded file h).bind ((Script.answers_note s _).bind (Script.answers_pure spells))

end ExpectedDamage.CommandLine
