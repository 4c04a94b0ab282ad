import ExpectedDamage.Proofs.CommandLine.Transcript
import ExpectedDamage.Proofs.Record.Merging
import ExpectedDamage.Proofs.Record.Reading
/-!
# Blocks of cantrips

Each cantrip with a damage roll has four tiers, which are reported as a block under its name.
Blocks are collected by names before they are shown, so that of several cantrips of one name only
the last one is reported, at the place of the first. No cantrip is lost exactly if all names are
different (`cantrip_reports_iff`).
-/

namespace ExpectedDamage

open Record

namespace Spell

open Combat (Context)

/-- The spells of level zero that name a damage roll. -/
def damageCantrips (spells : List Spell) : List Spell :=
  spells.filter fun s => s.level.val = 0 ∧ s.isDamaging = true

theorem select_cantrips (spells : List Spell) :
    Filter.select { level := some 0, damagingOnly := true } spells = damageCantrips spells := by
  refine List.filter_congr fun s _ => ?_
  rw [Bool.eq_iff_iff]
  simp only [Filter.passes, isGiven, Option.all_some, Option.all_none, beq_iff_eq, Bool.not_false,
    Bool.true_or, Bool.not_true, Bool.false_or, Bool.and_true, Bool.and_eq_true, decide_eq_true_eq]
  exact and_congr_left fun _ => eq_comm

/-- Tiers under the names of their spells. -/
def blocksOf (tiers : List (Spell × List CantripTier)) : List (String × List CantripTier) :=
  tiers.map fun (s, ts) => (s.name, ts)

theorem tiersByName_eq_merge (tiers : List (Spell × List CantripTier)) :
    tiersByName tiers = Keyed.merge [] (blocksOf tiers) :=
  rfl

theorem keys_blocksOf {cantrips : List Spell} {tiers : List (Spell × List CantripTier)}
    {P : Spell → Spell × List CantripTier → Prop}
    (h : List.Forall₂ (fun s t => t.1 = s ∧ P s t) cantrips tiers) :
    Keyed.keys (blocksOf tiers) = cantrips.map Spell.name := by
  rw [Keyed.keys, blocksOf, List.map_map, eq_comm, ← List.forall₂_eq_eq_eq,
    List.forall₂_map_left_iff, List.forall₂_map_right_iff]
  exact h.imp fun s t ht => congrArg Spell.name ht.1.symm

theorem length_of_tiers? {s : Spell} {context : Context} {tiers : List CantripTier}
    (h : s.tiers? context = .ok tiers) : tiers.length = 4 :=
  (forall₂_of_mapM_eq_ok h).length_eq.symm

end Spell

namespace CommandLine

open Spell (CantripTier)

/-- Blocks as the fields of an object. -/
def blockFields (blocks : List (String × List CantripTier)) : Value :=
  .object (blocks.map fun (name, tiers) => (name, .list (tiers.map CantripTier.dump)))

/-- Some blocks are reported, as an object or as lines of text; if there are none, that they are
missing. -/
def Outcome.Reports (o : Outcome) (asJson : Bool) (blocks : List (String × List CantripTier)) :
    Prop :=
  if blocks = [] then
    o.result = .done "" ∧ o.displays = [infoText "No damage cantrips found"]
  else if asJson then o.Writes (blockFields blocks) ∧ o.displays = []
  else o.result = .done "" ∧
    o.displays = blocks.flatMap fun (name, tiers) => cantripLines name tiers

theorem Outcome.reports_iff {o : Outcome} {asJson : Bool}
    {blocks : List (String × List CantripTier)} (hne : blocks ≠ [])
    (hresult : o.result = if asJson then .ofJson (blockFields blocks) else .done "")
    (hdisplays : o.displays = if asJson then [] else
      blocks.flatMap fun (name, tiers) => cantripLines name tiers) :
    o.Reports asJson blocks ↔ asJson = false ∨
      ∀ n ∈ Document.Json.wholes (blockFields blocks), WholeText.Fits n := by
  rw [Reports, if_neg hne]
  cases asJson with
  | true =>
      simp only [if_true, hdisplays, and_true, Outcome.writes_self_iff hresult, Bool.true_eq_false,
        false_or]
  | false => exact iff_of_true ⟨hresult, hdisplays⟩ (.inl rfl)

theorem answers_tiersOf {s : Setup} {context : Combat.Context} {spell : Spell}
    {tiers : List CantripTier} (h : spell.tiers? context = .ok tiers) :
    (tiersOf s context spell).Answers tiers := by
  refine Script.answers_mapM ((forall₂_of_mapM_eq_ok h).imp fun level t ht => ?_)
  exact (Script.answers_note s _).bind (Script.answers_computed ht)

/-- Lines of cantrips are no notices. -/
theorem filter_cantripLines (blocks : List (String × List CantripTier)) :
    (blocks.flatMap fun (name, tiers) => cantripLines name tiers).filter Event.isDisplay =
      blocks.flatMap fun (name, tiers) => cantripLines name tiers := by
  refine List.filter_eq_self.2 fun event hevent => ?_
  obtain ⟨block, -, hline⟩ := List.mem_flatMap.1 hevent
  rcases List.mem_cons.1 hline with rfl | hline
  · rfl
  · obtain ⟨t, -, rfl⟩ := List.mem_map.1 hline
    rfl

section Cantrip

variable {s : Setup} {file : String} {switches : ContextSwitches} {spells : List Spell}

theorem concludes_cantrip_of_nil (hload : Library.loadSpells s.folder file s.yaml = .ok spells)
    (h : Spell.damageCantrips spells = [])
    (asJson : Bool) : (cantrip s file switches asJson).Concludes (.done "")
      [infoText "No damage cantrips found"] := by
  refine (answers_spellsOf hload).concludes ?_
  simp only [Spell.select_cantrips, h]
  exact Script.concludes_showAll _

/-- The result of reporting some blocks, and what is shown of them. -/
theorem concludes_cantrip {context : Combat.Context} {tiers : List (Spell × List CantripTier)}
    (hload : Library.loadSpells s.folder file s.yaml = .ok spells)
    (hne : Spell.damageCantrips spells ≠ [])
    (hcontext : (s.settings.context.andThen fun c => c.withChanges switches.changes) = .ok context)
    (htiers : List.Forall₂ (fun spell (t : Spell × List CantripTier) =>
      t.1 = spell ∧ spell.tiers? context = .ok t.2) (Spell.damageCantrips spells) tiers)
    (asJson : Bool) : (cantrip s file switches asJson).Concludes
      (if asJson then .ofJson (blockFields (Spell.tiersByName tiers)) else .done "")
      (if asJson then [] else
        (Spell.tiersByName tiers).flatMap fun (name, tiers) => cantripLines name tiers) := by
  refine (answers_spellsOf hload).concludes ?_
  simp only [Spell.select_cantrips, List.isEmpty_iff, if_neg hne]
  refine (answers_contextOf hcontext).concludes ?_
  have hpairs : ((Spell.damageCantrips spells).mapM fun spell => do
      return (spell, ← tiersOf s context spell) : Script _).Answers tiers := by
    refine Script.answers_mapM (htiers.imp fun spell t ht => ?_)
    obtain ⟨rfl, ht⟩ := ht
    exact (answers_tiersOf ht).bind (Script.answers_pure t)
  refine hpairs.concludes ?_
  cases asJson with
  | true => exact Script.concludes_writeJson _
  | false =>
      have hshown := Script.concludes_showAll
        ((Spell.tiersByName tiers).flatMap fun (name, tiers) => cantripLines name tiers)
      rwa [filter_cantripLines] at hshown

end Cantrip

/-- Spells that each have tiers, together with them. -/
theorem exists_tiers {context : Combat.Context} {cantrips : List Spell}
    (h : ∀ spell ∈ cantrips, ∃ tiers, spell.tiers? context = .ok tiers) :
    ∃ tiers : List (Spell × List CantripTier), List.Forall₂ (fun spell t =>
      t.1 = spell ∧ spell.tiers? context = .ok t.2) cantrips tiers := by
  have hall : ∀ spell ∈ cantrips, ∃ t, (spell, ·) <$> spell.tiers? context = .ok t :=
    fun spell hspell => exists_map_eq_ok_iff.2 (h spell hspell)
  obtain ⟨tiers, htiers⟩ := exists_mapM_eq_ok_iff.2 hall
  refine ⟨tiers, (forall₂_of_mapM_eq_ok htiers).imp fun spell t ht => ?_⟩
  obtain ⟨own, hown, rfl⟩ := map_eq_ok_iff.1 ht
  exact ⟨rfl, hown⟩

/-- Each damaging cantrip has a block of four tiers. What is reported, as an object if its whole
numbers can be written, are blocks under the names of the cantrips in their order, each name once
and with the tiers that stand last under it. These are all blocks if the names are different, and
fewer if they are not. -/
theorem cantrip_reports_iff {s : Surroundings} {words : List String} {setup : Setup}
    {file : String} {switches : ContextSwitches} {asJson : Bool} {context : Combat.Context}
    {spells : List Spell} (hasks : s.Asks words setup (.cantrip file switches asJson))
    (hload : Library.loadSpells setup.folder file setup.yaml = .ok spells)
    (hcontext : (setup.settings.context.andThen fun c => c.withChanges switches.changes) =
      .ok context)
    (h : ∀ spell ∈ Spell.damageCantrips spells, ∃ tiers, spell.tiers? context = .ok tiers) :
    ∃ blocks reported : List (String × List CantripTier),
      List.Forall₂ (fun spell (block : String × List CantripTier) =>
          block.1 = spell.name ∧ spell.tiers? context = .ok block.2 ∧ block.2.length = 4)
        (Spell.damageCantrips spells) blocks ∧
      ((run s words setup.yaml).Reports asJson reported ↔ asJson = false ∨
        ∀ n ∈ Document.Json.wholes (blockFields reported), WholeText.Fits n) ∧
      Keyed.keys reported = ((Spell.damageCantrips spells).map Spell.name).eraseDups ∧
      (∀ name, Keyed.lookup? reported name = Keyed.lookup? blocks.reverse name) ∧
      (((Spell.damageCantrips spells).map Spell.name).Nodup → reported = blocks) ∧
      (¬ ((Spell.damageCantrips spells).map Spell.name).Nodup →
        reported.length < blocks.length) := by
  have hrun : run s words setup.yaml = Outcome.ofScript (cantrip setup file switches asJson) :=
    run_of_asks hasks
  rw [hrun]
  by_cases hne : Spell.damageCantrips spells = []
  · have hreports : (Outcome.ofScript (cantrip setup file switches asJson)).Reports asJson [] :=
      (concludes_cantrip_of_nil hload hne asJson).outcome
    rw [hne, List.map_nil]
    exact ⟨[], [], .nil, iff_of_true hreports (.inr nofun), rfl, fun _ => rfl, fun _ => rfl,
      fun hdup => absurd List.nodup_nil hdup⟩
  · obtain ⟨tiers, htiers⟩ := exists_tiers h
    have hblocks : Spell.blocksOf tiers ≠ [] := by
      intro hnil
      rw [List.map_eq_nil_iff.1 hnil] at htiers
      exact hne (List.forall₂_nil_right_iff.1 htiers)
    obtain ⟨hresult, hdisplays⟩ := (concludes_cantrip hload hne hcontext htiers asJson).outcome
    rw [Spell.tiersByName_eq_merge] at hresult hdisplays
    rw [← Spell.keys_blocksOf htiers]
    refine ⟨Spell.blocksOf tiers, Keyed.merge [] (Spell.blocksOf tiers), ?_,
      Outcome.reports_iff (Keyed.merge_ne_nil hblocks) hresult hdisplays, Keyed.keys_merge _,
      fun name => ?_, Keyed.merge_eq_self_of_nodup, Keyed.length_merge_lt⟩
    · rw [Spell.blocksOf, List.forall₂_map_right_iff]
      refine htiers.imp fun spell t ht => ?_
      obtain ⟨rfl, hown⟩ := ht
      exact ⟨rfl, hown, Spell.length_of_tiers? hown⟩
    · rw [Keyed.lookup?_merge]
      exact Option.or_none

/-- A file of two cantrips of one name, of which the second has a roll that cannot be read. -/
theorem cantrip_reports_iff_namesakes :
    let s : Surroundings := ⟨⟨[("s.json", .file
      ("[\x7b\"name\":\"Bolt\",\"damage_roll\":\"1d10\"\x7d,".toUTF8 ++
        "\x7b\"name\":\"Bolt\",\"damage_roll\":\"varies\"\x7d]".toUTF8))]⟩, [], fun _ => 0⟩
    let words := ["spells", "cantrip", "s.json"]
    let spells : List Spell := [{ name := "Bolt", damageRoll := some "1d10" },
      { name := "Bolt", damageRoll := some "varies" }]
    let setup : Setup := ⟨{}, s.folder, Document.Yaml.read, s.faces, .warning⟩
    s.Asks words setup (.cantrip "s.json" {} false) ∧
      (setup.settings.context.andThen fun c => c.withChanges ({} : ContextSwitches).changes) =
        .ok {} ∧
      Library.loadSpells setup.folder "s.json" setup.yaml = .ok spells ∧
      (∀ spell ∈ Spell.damageCantrips spells, ∃ tiers, spell.tiers? {} = .ok tiers) ∧
      (Spell.damageCantrips spells).length = 2 ∧
      ∃ reported, (run s words setup.yaml).Reports false reported ∧
        Keyed.keys reported = ["Bolt"] := by
  intro s words spells setup
  have hasks : s.Asks words setup (.cantrip "s.json" {} false) :=
    ⟨⟨false, .spells, words.tail⟩, {}, by decide +kernel,
      eq_ok_of_toOption (by decide +kernel), by decide +kernel, rfl⟩
  have hcontext : (setup.settings.context.andThen fun c =>
      c.withChanges ({} : ContextSwitches).changes) = .ok {} := by
    with_unfolding_all rfl
  have hload : Library.loadSpells setup.folder "s.json" setup.yaml = .ok spells :=
    eq_ok_of_toOption (by decide +kernel)
  have htiers : ∀ spell ∈ Spell.damageCantrips spells, ∃ tiers, spell.tiers? {} = .ok tiers := by
    decide +kernel
  refine ⟨hasks, hcontext, hload, htiers, by decide +kernel, ?_⟩
  obtain ⟨blocks, reported, -, hreports, hkeys, -⟩ :=
    cantrip_reports_iff hasks hload hcontext htiers
  refine ⟨reported, hreports.2 (.inl rfl), ?_⟩
  rw [hkeys]
  decide +kernel

end CommandLine

end ExpectedDamage
