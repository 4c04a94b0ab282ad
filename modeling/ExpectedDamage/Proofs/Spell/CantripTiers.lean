import ExpectedDamage.Proofs.Combat.Overrides
import ExpectedDamage.Proofs.Dice.StepwiseScaling
import ExpectedDamage.Proofs.Spell.Upcasting
import ExpectedDamage.Spell.CantripTier
/-!
# What the tiers of a cantrip share

A tier is the analysis of the cantrip with its own number of dice and for a caster of its own
level, in a context that is the same otherwise (`of_tier?`). Neither the dice nor the level of the
caster decides how the cantrip takes effect, whom it affects, or what is said about its use, so
the tiers agree on all of this (`Analysis.Agrees`). What they roll are the dice of the first term,
as many as the tier has, and the modifier (`tiers?_differ_in_dice`).
-/

namespace ExpectedDamage.Spell

open Combat (Context)

/-- The damage of two castings takes effect in the same way on the same targets. -/
structure Damage.Agrees (d e : Damage) : Prop where
  chance : d.chance = e.chance
  saveForHalf : d.saveForHalf = e.saveForHalf
  targets : d.targets = e.targets
  maxTargets : d.maxTargets = e.maxTargets
  types : d.types = e.types
  tactics : d.tactics = e.tactics

/-- Two analyses say the same of the spell, the caster's bonuses, and the way in which the damage
takes effect. -/
structure Analysis.Agrees (a b : Analysis) : Prop where
  key : a.spell.key = b.spell.key
  name : a.spell.name = b.spell.name
  level : a.spell.level = b.spell.level
  school : a.spell.school = b.spell.school
  concentration : a.spell.concentration = b.spell.concentration
  ritual : a.spell.ritual = b.spell.ritual
  saveDifficulty : a.context.saveDifficulty = b.context.saveDifficulty
  attackBonus : a.context.attackBonus = b.context.attackBonus
  damage : ∀ d ∈ a.damage?, ∀ e ∈ b.damage?, d.Agrees e

/-- The effect of a calculated damage is a matter of the spell and the context, not of the
dice. -/
theorem Calculated.agrees {s s' : Spell} {context context' : Context} {slotLevel slotLevel' : Int}
    {recorded recorded' roll roll' : String} {dice dice' : Dice.Expression}
    {area area' : Area.TargetEstimate} {unrounded unrounded' : Figures Binary64} {d e : Damage}
    (hd : s.Calculated context slotLevel recorded roll dice area unrounded d)
    (he : s'.Calculated context' slotLevel' recorded' roll' dice' area' unrounded' e)
    (hresolution : s.resolution context = s'.resolution context')
    (hestimate : Area.estimate? s.wording context context.clustered =
      Area.estimate? s'.wording context' context'.clustered)
    (htypes : s.damageChoice = s'.damageChoice)
    (htactics : ∀ targets, s.tacticalSummary targets = s'.tacticalSummary targets) :
    d.Agrees e := by
  obtain rfl : area = area' :=
    Except.ok.inj (hd.estimate.symm.trans (hestimate.trans he.estimate))
  have hchance : unrounded.chance = unrounded'.chance := by
    rw [chance_of_figures? hd.figures, chance_of_figures? he.figures, hresolution]
  rw [hd.rest, he.rest]
  exact {
    chance := Except.ok.inj (hd.chance.symm.trans (hchance ▸ he.chance))
    saveForHalf := congrArg Resolution.leavesHalf hresolution
    targets := rfl
    maxTargets := rfl
    types := htypes
    tactics := htactics area.targets }

/-- The spell with another damage roll. -/
def rolling (s : Spell) (roll : String) : Spell := { s with damageRoll := some roll }

theorem rolling_baseRoll {s : Spell} (h : s.correction? = none) (roll text : String) :
    (s.rolling roll).baseRoll text = text := by
  have hrolling : (s.rolling roll).correction? = none := h
  unfold baseRoll
  rw [hrolling]

/-- Neither the roll nor the level of the caster is part of what analyses agree on. -/
theorem agrees_rolling {s : Spell} {context : Context} {roll roll' : String}
    {level level' : CharacterLevel} {d e : Damage} (h : d.Agrees e) :
    Analysis.Agrees ⟨s.rolling roll, { context with casterLevel := level }, .damaging d⟩
      ⟨s.rolling roll', { context with casterLevel := level' }, .damaging e⟩ where
  key := rfl
  name := rfl
  level := rfl
  school := rfl
  concentration := rfl
  ritual := rfl
  saveDifficulty := rfl
  attackBonus := rfl
  damage := by
    rintro _ ⟨⟩ _ ⟨⟩
    exact h

/-- A tier is analysed in the context with the level of the tier. -/
theorem of_tier? {s : Spell} {context : Context} {level : CharacterLevel} {t : CantripTier}
    (h : s.tier? context level = .ok t) : t.level = level ∧ t.dice = cantripDice level.val ∧
      t.analysis.context = { context with casterLevel := level } := by
  obtain ⟨scaled, -, h⟩ := bind_eq_ok_iff.1 h
  obtain ⟨a, hanalysis, h⟩ := bind_eq_ok_iff.1 h
  obtain rfl := Except.ok.inj h
  obtain ⟨verdict, -, hverdict⟩ := bind_eq_ok_iff.1 hanalysis
  obtain rfl := Except.ok.inj hverdict
  exact ⟨rfl, rfl, rfl⟩

section Tier

variable {s : Spell} {context : Context} {recorded : String} {first : Dice.Term}
  {rest : List Dice.Term} {modifier : Int}

/-- The roll of a tier is written from the dice of the first term and read as them again. -/
theorem exists_of_atTier? (hrecorded : s.damageRoll = some recorded)
    (hparse : Dice.Expression.parse? recorded = .ok (some ⟨first :: rest, modifier⟩))
    {level : CharacterLevel} (hdice : 1 ≤ cantripDice level.val) {scaled : Spell}
    (h : s.atTier? level = .ok scaled) :
    ∃ roll, scaled = s.rolling roll ∧ Dice.Expression.parse? roll =
      .ok (some (Dice.cantripDamage first modifier (cantripDice level.val))) := by
  rw [atTier?, hrecorded] at h
  obtain ⟨damageRoll, hroll, h⟩ := bind_eq_ok_iff.1 h
  obtain rfl := Except.ok.inj h
  obtain ⟨roll, hscaled, rfl⟩ := map_eq_ok_iff.1 hroll
  obtain ⟨hfits, htext⟩ :=
    WholeText.showing?_eq_ok_iff.1 ((Dice.scaleCantripText?_eq hparse _).symm.trans hscaled)
  have hsides : 1 ≤ first.sides := ((Dice.valid_of_parse? hparse).1 first List.mem_cons_self).2.1
  have hvalid := Dice.valid_cantripDamage (Int.ofNat_le.2 hdice) hsides modifier
  exact ⟨roll, rfl, Dice.Expression.parse?_eq_of_text_eq hvalid hfits htext⟩

/-- Each tier is calculated from its own dice, for a caster of its own level. -/
theorem exists_calculated_of_mem (hcorrection : s.correction? = none)
    (hrecorded : s.damageRoll = some recorded)
    (hparse : Dice.Expression.parse? recorded = .ok (some ⟨first :: rest, modifier⟩))
    {tiers : List CantripTier} (htiers : s.tiers? context = .ok tiers) {t : CantripTier}
    (ht : t ∈ tiers) :
    ∃ roll d area unrounded,
      t.analysis = ⟨s.rolling roll, { context with casterLevel := t.level }, .damaging d⟩ ∧
      Dice.Expression.parse? roll = .ok (some (Dice.cantripDamage first modifier t.dice)) ∧
      (s.rolling roll).Calculated { context with casterLevel := t.level } s.level.val roll roll
        (Dice.cantripDamage first modifier t.dice) area unrounded d := by
  have hpos : ∀ level ∈ tierLevels, 1 ≤ cantripDice level.val := by decide
  obtain ⟨level, hlevel, h⟩ := exists_of_mem_of_mapM_eq_ok htiers ht
  have hdice := hpos level hlevel
  obtain ⟨scaled, hscaled, h⟩ := bind_eq_ok_iff.1 h
  obtain ⟨a, hanalysis, h⟩ := bind_eq_ok_iff.1 h
  obtain rfl := Except.ok.inj h
  obtain ⟨roll, rfl, hread⟩ := exists_of_atTier? hrecorded hparse hdice hscaled
  have hcast : (s.rolling roll).castRoll? roll none = .ok roll := by
    rw [castRoll?_own, rolling_baseRoll hcorrection]
  rcases analyze?_cases hanalysis with
    ⟨-, hharmless⟩ | ⟨_, roll', dice, d, hsome, -, hroll', hread', hdamage, hd⟩
  · have hne : roll ≠ "" := by
      rintro rfl
      have hempty : Dice.Expression.parse? "" = .ok none := by decide
      exact nomatch hempty.symm.trans hread
    obtain ⟨roll', hroll', hnone⟩ := hharmless roll rfl hne
    obtain rfl := Except.ok.inj (hcast.symm.trans hroll')
    exact nomatch hnone.symm.trans hread
  · obtain rfl := Option.some.inj hsome
    obtain rfl := Except.ok.inj (hcast.symm.trans hroll')
    obtain rfl := Option.some.inj (Except.ok.inj (hread.symm.trans hread'))
    obtain ⟨area, unrounded, hcalculated⟩ := damage?_eq_ok_iff.1 hdamage
    obtain ⟨verdict, -, hverdict⟩ := bind_eq_ok_iff.1 hanalysis
    obtain rfl := Except.ok.inj hverdict
    cases verdict with
    | harmless reason => exact nomatch hd
    | damaging d' =>
        obtain rfl := Option.some.inj hd
        exact ⟨roll, d', area, unrounded, rfl, hread, hcalculated⟩

/-- The four tiers of a cantrip without a correction are analysed for casters of their levels in a
context that is the same otherwise, as the change of the level gives it. They roll one to four
dice of the first term of the cantrip and its modifier, and agree on everything else that is not a
matter of how much they roll. -/
theorem tiers?_differ_in_dice (hcorrection : s.correction? = none)
    (hrecorded : s.damageRoll = some recorded)
    (hparse : Dice.Expression.parse? recorded = .ok (some ⟨first :: rest, modifier⟩))
    {tiers : List CantripTier} (h : s.tiers? context = .ok tiers) :
    tiers.map (·.level.val) = [1, 5, 11, 17] ∧ tiers.map (·.dice) = [1, 2, 3, 4] ∧
    (∀ t ∈ tiers, t.analysis.context = { context with casterLevel := t.level } ∧
      context.withChanges [("caster_level", .int t.level.val)] = .ok t.analysis.context) ∧
    (∀ t ∈ tiers, ∃ d, t.analysis.damage? = some d ∧
      Dice.Expression.parse? d.roll = .ok (some ⟨[⟨t.dice, first.sides, none⟩], modifier⟩) ∧
      d.minimum = t.dice + modifier ∧ d.maximum = t.dice * first.sides + modifier) ∧
    ∀ t ∈ tiers, ∀ u ∈ tiers, t.analysis.Agrees u.analysis := by
  have hlevels : tiers.map (·.level.val) = tierLevels.map Subtype.val :=
    map_eq_of_mapM_eq_ok (fun _ _ ht => congrArg Subtype.val (of_tier? ht).1) h
  have hdice : tiers.map (·.dice) = tierLevels.map fun level => cantripDice level.val :=
    map_eq_of_mapM_eq_ok (fun _ _ ht => (of_tier? ht).2.1) h
  refine ⟨hlevels, hdice, fun t ht => ?_, fun t ht => ?_, fun t ht u hu => ?_⟩
  · obtain ⟨level, -, htier⟩ := exists_of_mem_of_mapM_eq_ok h ht
    obtain ⟨rfl, -, hcontext⟩ := of_tier? htier
    refine ⟨hcontext, ?_⟩
    rw [hcontext]
    exact context.withChanges_casterLevel t.level
  · obtain ⟨roll, d, area, unrounded, hanalysis, hread, hcalculated⟩ :=
      exists_calculated_of_mem hcorrection hrecorded hparse h ht
    refine ⟨d, congrArg Analysis.damage? hanalysis, ?_, ?_, ?_⟩
    · rw [hcalculated.rest]
      exact hread
    · rw [hcalculated.rest]
      exact Dice.minimum_cantripDamage first modifier t.dice
    · rw [hcalculated.rest]
      exact Dice.maximum_cantripDamage first modifier t.dice
  · obtain ⟨roll, d, area, unrounded, hanalysis, -, hcalculated⟩ :=
      exists_calculated_of_mem hcorrection hrecorded hparse h ht
    obtain ⟨roll', e, area', unrounded', hanalysis', -, hcalculated'⟩ :=
      exists_calculated_of_mem hcorrection hrecorded hparse h hu
    rw [hanalysis, hanalysis']
    apply agrees_rolling
    exact hcalculated.agrees hcalculated' rfl
      ((Area.estimate?_congr rfl _ _).trans (Area.estimate?_congr rfl _ _).symm) rfl fun _ => rfl

end Tier

/-- A cantrip that fills a cone and is recorded with a keep rule, a second term and a negative
modifier. -/
theorem tiers?_differ_in_dice_spray :
    let s : Spell :=
      { name := "Spray", damageRoll := some "2d8kl1 + 1d4 - 3", savingThrow := some "Dexterity",
        description := "A 15-foot cone of acid." }
    s.correction? = none ∧
    Dice.Expression.parse? "2d8kl1 + 1d4 - 3" =
      .ok (some ⟨[⟨2, 8, some ⟨.lowest, 1⟩⟩, ⟨1, 4, none⟩], -3⟩) ∧
    ∃ tiers, s.tiers? {} = .ok tiers ∧
      tiers.map (·.level.val) = [1, 5, 11, 17] ∧ tiers.map (·.dice) = [1, 2, 3, 4] ∧
      (∀ t ∈ tiers, t.analysis.context = { casterLevel := t.level } ∧
        Context.withChanges {} [("caster_level", .int t.level.val)] = .ok t.analysis.context) ∧
      (∀ t ∈ tiers, ∃ d, t.analysis.damage? = some d ∧
        Dice.Expression.parse? d.roll = .ok (some ⟨[⟨t.dice, 8, none⟩], -3⟩) ∧
        d.minimum = t.dice + -3 ∧ d.maximum = t.dice * 8 + -3) ∧
      ∀ t ∈ tiers, ∀ u ∈ tiers, t.analysis.Agrees u.analysis := by
  intro s
  have hcorrection : s.correction? = none := by decide
  have hparse : Dice.Expression.parse? "2d8kl1 + 1d4 - 3" =
      .ok (some ⟨[⟨2, 8, some ⟨.lowest, 1⟩⟩, ⟨1, 4, none⟩], -3⟩) := by
    decide +kernel
  have htiers : ∃ tiers, s.tiers? {} = .ok tiers := by
    decide +kernel
  obtain ⟨tiers, htiers⟩ := htiers
  exact ⟨hcorrection, hparse, tiers, htiers, tiers?_differ_in_dice hcorrection rfl hparse htiers⟩

end ExpectedDamage.Spell
