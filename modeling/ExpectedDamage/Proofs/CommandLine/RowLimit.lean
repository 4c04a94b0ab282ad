import ExpectedDamage.Proofs.CommandLine.Transcript
import ExpectedDamage.Proofs.Spell.BestForSlot
/-!
# The rows of a ranking

A ranking for a slot is written up to a number of rows, which a switch asks for or the settings
give. Asking for no rows at all leaves their number to the settings, so that exactly the rows
asked for are written if there is one at least, or none that the settings would leave
(`best_writes_rows_iff`).
-/

namespace ExpectedDamage

open Record

namespace Spell

open Combat (Context)

theorem upTo_of_nonneg {α : Type} {bound : Int} (h : 0 ≤ bound) (items : List α) :
    upTo bound items = items.take bound.toNat :=
  if_pos h

/-- A bound leaves nothing of some items if it is zero, or from the end at least their number. -/
theorem upTo_eq_nil_iff {α : Type} {bound : Int} {items : List α} :
    upTo bound items = [] ↔ items = [] ∨ bound = 0 ∨ bound ≤ -items.length := by
  rw [upTo]
  split
  · rw [List.take_eq_nil_iff, ← List.length_eq_zero_iff]
    omega
  · rw [List.take_eq_nil_iff, ← List.length_eq_zero_iff]
    omega

/-- The best analyses for a slot are the ranking of those of the eligible spells. -/
theorem isRanking_bestOf {spells : List Spell} {slot : Int} {context : Context}
    {analyses : List Analysis} (h : ((spells.filter (fitsSlot slot)).mapM fun s =>
      s.analyze? context (some slot)) = .ok analyses) :
    ∃ eligible, List.Forall₂ (fun s a => s.analyze? context (some slot) = .ok a)
        (spells.filter fun s => s.EligibleFor slot) eligible ∧
      IsRanking Analysis.perSlotLevel eligible (bestOf analyses) := by
  refine ⟨_, forall₂_eligibleFor (forall₂_of_mapM_eq_ok h), isRanking_rankedBy fun a ha => ?_⟩
  obtain ⟨hmem, hsome⟩ := List.mem_filter.1 ha
  obtain ⟨d, hd⟩ := Option.isSome_iff_exists.1 hsome
  obtain ⟨s, -, hs⟩ := exists_of_mem_of_mapM_eq_ok h hmem
  rw [perSlotLevel_eq hd]
  exact (shown_of_analyze? hs d hd).perSlotLevel.isFinite

end Spell

namespace Document.Json

theorem textAt_list_indented (level : Nat) (v : Value) (items : List Value) :
    ∃ rest, (textAt .indented level (.list (v :: items))).toList = '[' :: '\n' :: rest := by
  rw [textAt, itemTexts, Spacing.enclose]
  simp [Spacing.lineBreak, Spacing.indented, String.toList_append]

/-- Only the empty list has the text of it. -/
theorem text_list_eq_iff {items : List Value} :
    text .indented (.list items) = "[]" ↔ items = [] := by
  constructor
  · intro h
    cases items with
    | nil => rfl
    | cons v items =>
        obtain ⟨rest, hrest⟩ := textAt_list_indented 0 v items
        rw [text] at h
        rw [h] at hrest
        exact absurd hrest (by simp)
  · rintro rfl
    rfl

end Document.Json

namespace CommandLine

open Spell (Analysis)

theorem answers_analysesOf {s : Setup} {spells : List Spell} {context : Combat.Context}
    {castLevel : Option Int} {analyses : List Analysis}
    (h : (spells.mapM fun spell => spell.analyze? context castLevel) = .ok analyses) :
    (analysesOf s spells context castLevel).Answers analyses := by
  refine Script.answers_mapM ((forall₂_of_mapM_eq_ok h).imp fun spell a ha => ?_)
  exact (Script.answers_note s _).bind (Script.answers_computed ha)

/-- The rows of a ranking as they are written. -/
def rows (analyses : List Analysis) : Value := .list (analyses.map Analysis.dump)

theorem concludes_best {s : Setup} {file : String} {slot : Int} {switches : ContextSwitches}
    {context : Combat.Context} {spells : List Spell} {analyses : List Analysis}
    (hcontext : (s.settings.context.andThen fun c => c.withChanges switches.changes) = .ok context)
    (hload : Library.loadSpells s.folder file s.yaml = .ok spells)
    (h : ((spells.filter (Spell.fitsSlot slot)).mapM fun spell =>
      spell.analyze? context (some slot)) = .ok analyses) (asked : Option Int) :
    (best s file slot asked switches true).Concludes (.ofJson (rows
      (Spell.upTo (rowLimit asked s.settings.topSpellsLimit) (Spell.bestOf analyses)))) [] :=
  (answers_contextOf hcontext).concludes <| (answers_spellsOf hload).concludes <|
    (answers_analysesOf h).concludes <| Script.concludes_writeJson _

theorem upTo_rowLimit {α : Type} {limit : Int} (hlimit : 0 ≤ limit) (default : Int)
    (items : List α) : Spell.upTo (rowLimit (some limit) default) items =
      if limit = 0 then Spell.upTo default items else items.take limit.toNat := by
  rw [rowLimit]
  split
  · rfl
  · exact Spell.upTo_of_nonneg hlimit items

/-- The rows that a limit which is not negative asks for are the ones that are shown, unless it
asks for none where the settings leave some. -/
theorem upTo_rowLimit_eq_take_iff {α : Type} {limit : Int} (hlimit : 0 ≤ limit) (default : Int)
    (items : List α) :
    Spell.upTo (rowLimit (some limit) default) items = items.take limit.toNat ↔
      limit ≠ 0 ∨ items = [] ∨ default = 0 ∨ default ≤ -items.length := by
  rw [upTo_rowLimit hlimit]
  split
  · next hzero =>
      rw [hzero, Int.toNat_zero, List.take_zero, Spell.upTo_eq_nil_iff]
      exact ⟨.inr, fun h => h.resolve_left (· rfl)⟩
  · next hne => exact iff_of_true rfl (.inl hne)

/-- Rows that may only differ from wanted ones if none are wanted have the text of the wanted ones
exactly if they are the same and have a text. -/
theorem exists_same_text_iff {shown wanted : List Analysis} (h : wanted = [] ∨ shown = wanted) :
    (∃ text, Document.Json.text? .indented (rows shown) = .ok text ∧
      Document.Json.text? .indented (rows wanted) = .ok text) ↔
      shown = wanted ∧ ∀ n ∈ Document.Json.wholes (rows wanted), WholeText.Fits n := by
  constructor
  · rintro ⟨text, hshown, hwanted⟩
    obtain ⟨-, rfl⟩ := WholeText.showing?_eq_ok_iff.1 hshown
    obtain ⟨hfits, htext⟩ := WholeText.showing?_eq_ok_iff.1 hwanted
    refine ⟨?_, hfits⟩
    rcases h with rfl | hsame
    · exact List.map_eq_nil_iff.1 (Document.Json.text_list_eq_iff.1 htext.symm)
    · exact hsame
  · rintro ⟨rfl, hfits⟩
    exact ⟨_, WholeText.showing?_eq_ok_iff.2 ⟨hfits, rfl⟩,
      WholeText.showing?_eq_ok_iff.2 ⟨hfits, rfl⟩⟩

/-- Asked for some rows, a ranking for a slot is written with exactly these if there is one at
least, or if the settings leave none; and if every whole number in them can be written. Asked for
none, the ranking is written with the rows that the settings leave. -/
theorem best_writes_rows_iff {s : Surroundings} {words : List String} {setup : Setup}
    {file : String} {slot : Between 1 9} {limit : Int} {switches : ContextSwitches}
    {context : Combat.Context} {spells : List Spell}
    (hasks : s.Asks words setup (.best file slot (some limit) switches true))
    (hcontext : (setup.settings.context.andThen fun c => c.withChanges switches.changes) =
      .ok context)
    (hload : Library.loadSpells setup.folder file setup.yaml = .ok spells) (hlimit : 0 ≤ limit)
    (h : ∀ spell ∈ spells, Spell.fitsSlot slot.val spell = true →
      ∃ a, spell.analyze? context (some slot.val) = .ok a) :
    ∃ analyses ranked,
      List.Forall₂ (fun spell a => spell.analyze? context (some slot.val) = .ok a)
        (spells.filter fun spell => spell.EligibleFor slot.val) analyses ∧
      Spell.IsRanking Analysis.perSlotLevel analyses ranked ∧
      (run s words setup.yaml).result = .ofJson (rows (if limit = 0 then
        Spell.upTo setup.settings.topSpellsLimit ranked else ranked.take limit.toNat)) ∧
      ((run s words setup.yaml).Writes (rows (ranked.take limit.toNat)) ↔
        (limit ≠ 0 ∨ ranked = [] ∨ setup.settings.topSpellsLimit = 0 ∨
          setup.settings.topSpellsLimit ≤ -ranked.length) ∧
        ∀ n ∈ Document.Json.wholes (rows (ranked.take limit.toNat)), WholeText.Fits n) := by
  have hall : ∀ spell ∈ spells.filter (Spell.fitsSlot slot.val),
      ∃ a, spell.analyze? context (some slot.val) = .ok a := fun spell hspell =>
    h spell (List.mem_filter.1 hspell).1 (List.mem_filter.1 hspell).2
  obtain ⟨all, hanalyses⟩ := exists_mapM_eq_ok_iff.2 hall
  obtain ⟨eligible, heligible, hranking⟩ := Spell.isRanking_bestOf hanalyses
  have hresult : (run s words setup.yaml).result = .ofJson (rows
      (Spell.upTo (rowLimit (some limit) setup.settings.topSpellsLimit) (Spell.bestOf all))) := by
    rw [run_of_asks hasks]
    exact (concludes_best hcontext hload hanalyses (some limit)).outcome.1
  refine ⟨eligible, Spell.bestOf all, heligible, hranking, ?_, ?_⟩
  · rw [hresult, upTo_rowLimit hlimit]
  · rw [Outcome.writes_iff hresult, ← upTo_rowLimit_eq_take_iff hlimit]
    apply exists_same_text_iff
    by_cases hzero : limit = 0
    · exact .inl (by rw [hzero, Int.toNat_zero, List.take_zero])
    · exact .inr ((upTo_rowLimit_eq_take_iff hlimit _ _).2 (.inl hzero))

/-- A ranking of one spell, of which no row is asked for. -/
theorem best_writes_rows_iff_none_asked :
    let s : Surroundings := ⟨⟨[("s.json", .file
      "[\x7b\"name\":\"Ray\",\"level\":1,\"damage_roll\":\"2d6\"\x7d]".toUTF8)]⟩, [], fun _ => 0⟩
    let words := ["spells", "best", "s.json", "--slot", "1", "--limit", "0", "--json"]
    let ray : Spell := { name := "Ray", level := ⟨1, by decide⟩, damageRoll := some "2d6" }
    let setup : Setup := ⟨{}, s.folder, Document.Yaml.read, s.faces, .warning⟩
    s.Asks words setup (.best "s.json" ⟨1, by decide⟩ (some 0) {} true) ∧
      (setup.settings.context.andThen fun c => c.withChanges ({} : ContextSwitches).changes) =
        .ok {} ∧
      Library.loadSpells setup.folder "s.json" setup.yaml = .ok [ray] ∧
      (∀ spell ∈ [ray], Spell.fitsSlot 1 spell = true →
        ∃ a, spell.analyze? {} (some 1) = .ok a) ∧
      ¬ (run s words setup.yaml).Writes (rows []) := by
  intro s words ray setup
  have hasks : s.Asks words setup (.best "s.json" ⟨1, by decide⟩ (some 0) {} true) :=
    ⟨⟨false, .spells, words.tail⟩, {}, by decide +kernel,
      eq_ok_of_toOption (by decide +kernel), by decide +kernel, rfl⟩
  have hcontext : (setup.settings.context.andThen fun c =>
      c.withChanges ({} : ContextSwitches).changes) = .ok {} := by
    with_unfolding_all rfl
  have hload : Library.loadSpells setup.folder "s.json" setup.yaml = .ok [ray] :=
    eq_ok_of_toOption (by decide +kernel)
  have hanalyses : ∀ spell ∈ [ray], Spell.fitsSlot 1 spell = true →
      ∃ a, spell.analyze? {} (some 1) = .ok a := by
    decide +kernel
  have heligible : ([ray].filter fun spell => spell.EligibleFor 1).length = 1 := by
    decide +kernel
  refine ⟨hasks, hcontext, hload, hanalyses, fun hwrites => ?_⟩
  obtain ⟨analyses, ranked, hforall, hranking, -, hiff⟩ :=
    best_writes_rows_iff hasks hcontext hload le_rfl hanalyses
  have hlength : ranked.length = 1 :=
    hranking.perm.length_eq.trans (hforall.length_eq.symm.trans heligible)
  rcases (hiff.1 hwrites).1 with hne | hnil | hzero | hle
  · exact hne rfl
  · rw [hnil] at hlength
    exact nomatch hlength
  · exact absurd hzero (by decide)
  · rw [hlength] at hle
    exact absurd hle (by decide)

end CommandLine

end ExpectedDamage
