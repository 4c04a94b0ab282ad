import ExpectedDamage.Proofs.Area.Estimate
import ExpectedDamage.Proofs.Combat.Chance
import ExpectedDamage.Proofs.Dice.Average
import ExpectedDamage.Proofs.Number.Magnitude
import ExpectedDamage.Spell.Analysis
/-!
# Analyses that succeed

An analysis ends without a verdict only where a number of a text cannot be read or a figure
leaves the range of binary64 numbers. `Calculable` lists what the casting of a spell needs
for this not to happen: an average, a size of the area, a slot, and figures that can be
shown. Nothing else of an analysis can fail, neither the chance in percent nor what is held
against the figures (`exists_analyze?_iff`). Where it succeeds, the damage is `Calculated`
from its dice, the targets and the figures (`damage?_eq_ok_iff`).
-/

namespace ExpectedDamage.Spell

open Combat (Context)
open Binary64

attribute [local irreducible] grainsPerUnit grainLimit roundLimit

/-! Chances. -/

theorem within_twentieths {n : Int} (hlow : 1 ≤ n) (hhigh : n ≤ 19) :
    Within (Combat.twentieths n) (2 ^ 0) := by
  have hlow : (1 : Rat) ≤ n := by exact_mod_cast hlow
  have hhigh : (n : Rat) ≤ 19 := by exact_mod_cast hhigh
  have hround : Rounds (quotient n 20) (n / (20 : Int)) := rounds_quotient (by decide)
  rw [Combat.twentieths_binary64]
  refine hround.within ?_ (attained_pow (by decide))
  rw [abs_of_nonneg (by positivity), pow_zero]
  exact (div_le_one (by norm_num)).2 (by norm_num; linarith)

theorem Resolution.within_chance (r : Resolution) : Within r.chance (2 ^ 0) := by
  cases r with
  | attack bonus armor =>
      have hchance : (Resolution.attack bonus armor).chance =
          (Combat.twentieths (Combat.hitFaces bonus armor) : Binary64) :=
        Combat.singleHitChance_eq Combat.readsConstants_binary64 bonus armor
      obtain ⟨hlow, hhigh⟩ := Combat.hitFaces_bounds bonus armor
      rw [hchance]
      exact within_twentieths hlow hhigh
  | save difficulty bonus half =>
      have hchance : (Resolution.save difficulty bonus half).chance =
          (Combat.twentieths (Combat.failFaces difficulty bonus) : Binary64) :=
        Combat.saveFailChance_eq Combat.readsConstants_binary64 difficulty bonus
      obtain ⟨hlow, hhigh⟩ := Combat.failFaces_bounds difficulty bonus
      rw [hchance]
      exact within_twentieths hlow hhigh
  | sure => exact ⟨by decide +kernel, by decide +kernel⟩

/-! What is held against the figures. -/

theorem exists_compareToCantrip? {x : Binary64} (hx : x.Showable) (casterLevel : Int) :
    ∃ c, compareToCantrip? (.real x) casterLevel = .ok c := by
  have hdice : cantripDice casterLevel ∈ [1, 2, 3, 4] := by
    rw [cantripDice]
    split_ifs <;> decide
  have hcantrip : ∀ n ∈ [1, 2, 3, 4], (quotient (n : Nat) 1 * 5.5 * 0.65).Showable ∧
      1 ≤ (quotient (n : Nat) 1 * 5.5 * 0.65).value := by
    simp only [← isFinite_mul_hundred_iff]
    decide +kernel
  obtain ⟨hshown, hone⟩ := hcantrip _ hdice
  have hratio := hx.div hshown.isFinite hone
  obtain ⟨cantrip, hcantrip⟩ := exists_roundDamage?_iff.2 hshown
  obtain ⟨ratio, hratio⟩ := exists_roundDamage?_iff.2 hratio
  exact ⟨_, bind_eq_ok_iff.2 ⟨x, rfl, bind_eq_ok_iff.2 ⟨cantrip, hcantrip,
    bind_eq_ok_iff.2 ⟨ratio, hratio, rfl⟩⟩⟩⟩

theorem typicalDamageOf_mem (level : Int) :
    typicalDamageOf level ∈ [5, 12, 18, 28, 35, 45, 55, 65, 75, 90, 10] := by
  have htable : ∀ entry ∈ typicalDamage, entry.2 ∈ [5, 12, 18, 28, 35, 45, 55, 65, 75, 90, 10] := by
    decide
  rw [typicalDamageOf]
  cases hfind : typicalDamage.find? (·.1 == level) with
  | none => decide
  | some entry => exact htable entry (List.mem_of_find?_eq_some hfind)

theorem exists_rateSlot? {x : Binary64} (hx : x.Showable) (level : Int) :
    ∃ r, rateSlot? (.real x) level = .ok r := by
  have htypical : ∀ n ∈ [5, 12, 18, 28, 35, 45, 55, 65, 75, 90, 10],
      ofInt? n = .ok (quotient n 1) ∧ (quotient n 1).IsFinite ∧ 1 ≤ (quotient n 1).value ∧
        ¬ ((quotient n 1).atMost 0 && (0 : Binary64).atMost (quotient n 1)) = true := by
    decide +kernel
  obtain ⟨hread, hfinite, hone, hzero⟩ := htypical _ (typicalDamageOf_mem level)
  obtain ⟨score, hscore⟩ := exists_roundDamage?_iff.2 (hx.div hfinite hone)
  have hratio : (Amount.real x).div? (.whole (typicalDamageOf level)) =
      .ok (x / quotient (typicalDamageOf level) 1) := by
    refine bind_eq_ok_iff.2 ⟨x, rfl, bind_eq_ok_iff.2 ⟨_, hread, ?_⟩⟩
    rw [if_neg hzero]
  exact ⟨_, bind_eq_ok_iff.2 ⟨_, hratio, bind_eq_ok_iff.2 ⟨score, hscore, rfl⟩⟩⟩

/-! The parts of an analysis. -/

theorem forall_mem_some {α : Type} {a : α} {P : α → Prop} : (∀ x ∈ some a, P x) ↔ P a :=
  ⟨fun h => h a rfl, fun h _ hx => Option.some.inj hx ▸ h⟩

/-- The sustained damage, if there is one. -/
def sustained? (s : Spell) (total : Binary64) : Except ArithmeticFault (Option Binary64) :=
  if s.concentration && isGiven s.duration then do
    let rounds ← Binary64.ofInt? (← rounds? s.duration)
    some <$> roundDamage? (total * rounds)
  else pure none

def chainDamage? (chain : Option Chain) (bonus : Option Binary64) :
    Except ArithmeticFault (Option ChainDamage) :=
  chain.mapM fun c => do return ⟨c, ← roundDamage? (bonus.getD 0.0)⟩

/-- How a damage comes from its dice, the estimate of the targets in the area and the figures
that are not rounded yet. -/
structure Calculated (s : Spell) (context : Context) (slotLevel : Int) (recorded roll : String)
    (dice : Dice.Expression) (area : Area.TargetEstimate) (unrounded : Figures Binary64)
    (d : Damage) : Prop where
  average : dice.mean? = .ok d.average
  estimate : Area.estimate? s.wording context context.clustered = .ok area
  figures : figures? (s.resolution context) d.average area.targets
    (s.correction?.bind (·.chain)) = .ok unrounded
  chain : chainDamage? (s.correction?.bind (·.chain)) unrounded.chain = .ok d.chain
  sustained : s.sustained? unrounded.total = .ok d.sustained
  chance : percent? (.real unrounded.chance) = .ok d.chance
  expected : roundDamage? unrounded.expected = .ok d.expected
  total : roundDamage? unrounded.total = .ok d.total
  perSlotLevel : ∃ slot, Binary64.ofInt? (max 1 slotLevel) = .ok slot ∧
    roundDamage? (unrounded.total / slot) = .ok d.perSlotLevel
  versusCantrip : compareToCantrip? (.real unrounded.total) context.casterLevel.val =
    .ok d.versusCantrip
  slotRating : rateSlot? (.real unrounded.total) slotLevel = .ok d.slotRating
  /-- Nothing else of the damage needs a calculation. -/
  rest : d = { d with
    roll, corrected := s.correction?.map fun _ => recorded
    minimum := dice.minimum, maximum := dice.maximum
    saveForHalf := (s.resolution context).leavesHalf
    targets := area.targets, maxTargets := area.maxTargets
    types := s.damageChoice, tactics := s.tacticalSummary area.targets }

/-- A damage is what is calculated for it. -/
theorem damage?_eq_ok_iff {s : Spell} {context : Context} {slotLevel : Int}
    {recorded roll : String} {dice : Dice.Expression} {d : Damage} :
    s.damage? context slotLevel recorded roll dice = .ok d ↔
      ∃ area unrounded, s.Calculated context slotLevel recorded roll dice area unrounded d := by
  have heq : s.damage? context slotLevel recorded roll dice = (do
      let average : Binary64 ← dice.mean?
      let estimate ← Area.estimate? s.wording context context.clustered
      let chain := s.correction?.bind (·.chain)
      let figures ← figures? (s.resolution context) average estimate.targets chain
      let chainDamage ← chainDamage? chain figures.chain
      let sustained ← s.sustained? figures.total
      let chance ← percent? (.real figures.chance)
      let expected ← roundDamage? figures.expected
      let total ← roundDamage? figures.total
      let perSlotLevel ← roundDamage? (figures.total / (← Binary64.ofInt? (max 1 slotLevel)))
      let versusCantrip ← compareToCantrip? (.real figures.total) context.casterLevel.val
      let slotRating ← rateSlot? (.real figures.total) slotLevel
      return {
        roll, corrected := s.correction?.map fun _ => recorded
        average, minimum := dice.minimum, maximum := dice.maximum
        chance, saveForHalf := (s.resolution context).leavesHalf, expected
        targets := estimate.targets, maxTargets := estimate.maxTargets, total
        sustained, chain := chainDamage, types := s.damageChoice
        perSlotLevel, versusCantrip, slotRating
        tactics := s.tacticalSummary estimate.targets }) := by
    simp only [damage?, sustained?, chainDamage?]
    split
    · simp only [bind_assoc]
    · rfl
  rw [heq]
  simp only [bind_eq_ok_iff]
  constructor
  · rintro ⟨average, haverage, estimate, hestimate, figures, hfigures, chain, hchain, sustained,
      hsustained, chance, hchance, expected, hexpected, total, htotal, slot, hslot, perSlotLevel,
      hperSlotLevel, versusCantrip, hversusCantrip, slotRating, hslotRating, hd⟩
    obtain rfl := Except.ok.inj hd
    exact ⟨estimate, figures, haverage, hestimate, hfigures, hchain, hsustained, hchance,
      hexpected, htotal, ⟨slot, hslot, hperSlotLevel⟩, hversusCantrip, hslotRating, rfl⟩
  · rintro ⟨estimate, figures, h⟩
    obtain ⟨slot, hslot, hperSlotLevel⟩ := h.perSlotLevel
    exact ⟨_, h.average, estimate, h.estimate, figures, h.figures, _, h.chain, _, h.sustained, _,
      h.chance, _, h.expected, _, h.total, slot, hslot, _, hperSlotLevel, _, h.versusCantrip, _,
      h.slotRating, congrArg Except.ok h.rest.symm⟩

theorem chain_of_figures? {r : Resolution} {average : Binary64} {targets : Int}
    {chain : Option Chain} {figures : Figures Binary64}
    (h : figures? r average targets chain = .ok figures) :
    figures.chain = chain.map fun c => chainBonus average c.chance r.chance := by
  obtain ⟨t, -, h⟩ := bind_eq_ok_iff.1 h
  exact Except.ok.inj h ▸ rfl

theorem chance_of_figures? {r : Resolution} {average : Binary64} {targets : Int}
    {chain : Option Chain} {figures : Figures Binary64}
    (h : figures? r average targets chain = .ok figures) : figures.chance = r.chance := by
  obtain ⟨t, -, h⟩ := bind_eq_ok_iff.1 h
  exact Except.ok.inj h ▸ rfl

/-- There are figures for all targets that are within the range. -/
theorem exists_figures? {targets : Int} (r : Resolution) (average : Binary64)
    (chain : Option Chain) (h : |(targets : Rat)| < limit) :
    ∃ figures, figures? r average targets chain = .ok figures :=
  ⟨_, bind_eq_ok_iff.2 ⟨_, ofInt?_eq_ok_iff.2 ⟨h, rfl⟩, rfl⟩⟩

theorem exists_sustained?_iff {s : Spell} {total : Binary64} :
    (∃ shown, s.sustained? total = .ok shown) ↔
      (s.concentration = true → isGiven s.duration = true → ∃ n, rounds? s.duration = .ok n ∧
        (n : Rat) < limit ∧ (total * quotient n 1).Showable) := by
  rw [sustained?]
  by_cases hlasts : (s.concentration && isGiven s.duration) = true
  · obtain ⟨hconcentration, hgiven⟩ := Bool.and_eq_true_iff.1 hlasts
    rw [if_pos hlasts]
    simp only [exists_bind_eq_ok_iff, exists_map_eq_ok_iff, exists_roundDamage?_iff,
      ofInt?_eq_ok_iff, Int.cast_natCast, Nat.abs_cast, hconcentration, hgiven, true_implies]
    constructor
    · rintro ⟨n, hn, _, ⟨hlimit, rfl⟩, hshown⟩
      exact ⟨n, hn, hlimit, hshown⟩
    · rintro ⟨n, hn, hlimit, hshown⟩
      exact ⟨n, hn, _, ⟨hlimit, rfl⟩, hshown⟩
  · rw [if_neg hlasts]
    refine iff_of_true ⟨none, rfl⟩ fun hconcentration hgiven => absurd ?_ hlasts
    rw [hconcentration, hgiven]
    rfl

theorem exists_chainDamage?_iff {chain : Option Chain} {f : Chain → Binary64} :
    (∃ shown, chainDamage? chain (chain.map f) = .ok shown) ↔
      ∀ bonus ∈ chain.map f, bonus.Showable := by
  cases chain with
  | none => exact iff_of_true ⟨none, rfl⟩ nofun
  | some c =>
      have hmem : (∀ bonus ∈ (some c).map f, bonus.Showable) ↔ (f c).Showable := by simp
      rw [hmem, ← exists_roundDamage?_iff]
      exact exists_map_eq_ok_iff.trans exists_map_eq_ok_iff

/-- The slot that a casting takes is within the range exactly if the given one is. -/
theorem exists_slot_iff {s : Spell} {castLevel : Option Int} :
    (∃ x, ofInt? (max 1 (s.slotLevel castLevel)) = .ok x) ↔
      ∀ level ∈ castLevel, (level : Rat) < limit := by
  have hexists : (∃ x, ofInt? (max 1 (s.slotLevel castLevel)) = .ok x) ↔
      ((max 1 (s.slotLevel castLevel) : Int) : Rat) < limit := by
    have hnonneg : (0 : Rat) ≤ (max 1 (s.slotLevel castLevel) : Int) := by
      exact_mod_cast (show 0 ≤ max 1 (s.slotLevel castLevel) by omega)
    simp only [ofInt?_eq_ok_iff, abs_of_nonneg hnonneg]
    exact ⟨fun ⟨_, h, _⟩ => h, fun h => ⟨_, h, rfl⟩⟩
  have hnine : ((9 : Nat) : Rat) < limit := Area.lt_limit_of_le (by decide)
  have hone : ((1 : Nat) : Rat) < limit := Area.lt_limit_of_le (by decide)
  have hown : (s.level.val : Rat) ≤ (9 : Nat) := by exact_mod_cast s.level.property.2
  have hown := hown.trans_lt hnine
  rw [Nat.cast_one] at hone
  rw [hexists, Int.cast_max, max_lt_iff, Int.cast_one, and_iff_right hone]
  cases castLevel with
  | none => exact iff_of_true hown nofun
  | some level =>
      have hslot : s.slotLevel (some level) = max level s.level.val := rfl
      rw [hslot, Int.cast_max, max_lt_iff, and_iff_left hown]
      exact (forall_mem_some (P := fun level : Int => (level : Rat) < limit)).symm

/-- What is divided by the level of a slot can be shown. -/
theorem showable_div_slot {x y : Binary64} {slotLevel : Int} (hx : x.Showable)
    (hy : ofInt? (max 1 slotLevel) = .ok y) : (x / y).Showable := by
  obtain ⟨hlimit, rfl⟩ := ofInt?_eq_ok_iff.1 hy
  have hfinite : (quotient (max 1 slotLevel) 1).IsFinite := by
    rw [(rounds_quotient Int.one_ne_zero).isFinite_iff, Int.cast_one, div_one]
    exact hlimit
  exact hx.div hfinite (one_le_quotient Int.one_pos (Int.le_max_left ..) hfinite)

/-- The figures of a casting can be shown. -/
structure FiguresShowable (s : Spell) (figures : Figures Binary64) : Prop where
  expected : figures.expected.Showable
  total : figures.total.Showable
  chain : ∀ bonus ∈ figures.chain, bonus.Showable
  /-- Concentration for a given time needs the number of its rounds. -/
  sustained : s.concentration = true → isGiven s.duration = true →
    ∃ n, rounds? s.duration = .ok n ∧ (n : Rat) < limit ∧
      (figures.total * quotient n 1).Showable

/-- All that a casting needs for an analysis of it, once its dice are read. -/
structure Calculable (s : Spell) (context : Context) (castLevel : Option Int)
    (dice : Dice.Expression) : Prop where
  terms : ∀ t ∈ dice.terms, t.Averageable
  modifier : |(dice.modifier : Rat)| < limit
  /-- The size of the area that is found first can be read, and it has squares. -/
  area : ∀ rule template digits,
    Area.firstFinding? s.wording = some (rule, .area template digits) →
      ∃ size squares, WholeText.value? digits = .ok size ∧ template.squares? size = .ok squares
  slot : ∀ level ∈ castLevel, (level : Rat) < limit
  figures : ∀ average estimate figures, dice.mean? = .ok average →
    Area.estimate? s.wording context context.clustered = .ok estimate →
      figures? (s.resolution context) average estimate.targets
        (s.correction?.bind (·.chain)) = .ok figures → s.FiguresShowable figures

/-- The damage of a casting is calculated exactly if it is calculable. -/
theorem exists_damage?_iff {s : Spell} {context : Context} {castLevel : Option Int}
    {recorded roll : String} {dice : Dice.Expression} (h : dice.Valid) :
    (∃ d, s.damage? context (s.slotLevel castLevel) recorded roll dice = .ok d) ↔
      s.Calculable context castLevel dice := by
  simp only [damage?_eq_ok_iff]
  constructor
  · rintro ⟨d, estimate, figures, hd⟩
    obtain ⟨slot, hslot, -⟩ := hd.perSlotLevel
    obtain ⟨hterms, hmodifier⟩ :=
      (Dice.Expression.exists_mean?_iff h).1 ⟨d.average, hd.average⟩
    refine ⟨hterms, hmodifier, Area.exists_estimate?_iff.1 ⟨estimate, hd.estimate⟩,
      exists_slot_iff.1 ⟨slot, hslot⟩, fun average' estimate' figures' ha he hf => ?_⟩
    obtain rfl : d.average = average' := Except.ok.inj (hd.average.symm.trans ha)
    obtain rfl := Except.ok.inj (hd.estimate.symm.trans he)
    obtain rfl := Except.ok.inj (hd.figures.symm.trans hf)
    refine ⟨exists_roundDamage?_iff.1 ⟨_, hd.expected⟩, exists_roundDamage?_iff.1 ⟨_, hd.total⟩,
      ?_, exists_sustained?_iff.1 ⟨_, hd.sustained⟩⟩
    have hchain := hd.chain
    rw [chain_of_figures? hd.figures] at hchain ⊢
    exact exists_chainDamage?_iff.1 ⟨_, hchain⟩
  · intro hc
    obtain ⟨average, haverage⟩ :=
      (Dice.Expression.exists_mean?_iff h).2 ⟨hc.terms, hc.modifier⟩
    obtain ⟨estimate, hestimate⟩ := Area.exists_estimate?_iff.2 hc.area
    obtain ⟨figures, hfigures⟩ := exists_figures? (s.resolution context) average
      (s.correction?.bind (·.chain)) (Area.abs_lt_limit_of_estimate? hestimate)
    have hshown := hc.figures average estimate figures haverage hestimate hfigures
    obtain ⟨chain, hchain⟩ : ∃ shown, chainDamage? (s.correction?.bind (·.chain))
        figures.chain = .ok shown := by
      have hchain := hshown.chain
      rw [chain_of_figures? hfigures] at hchain ⊢
      exact exists_chainDamage?_iff.2 hchain
    obtain ⟨sustained, hsustained⟩ := exists_sustained?_iff.2 hshown.sustained
    obtain ⟨chance, hchance⟩ := exists_percent?_iff.2
      (chance_of_figures? hfigures ▸ (s.resolution context).within_chance.showable (by decide))
    obtain ⟨expected, hexpected⟩ := exists_roundDamage?_iff.2 hshown.expected
    obtain ⟨total, htotal⟩ := exists_roundDamage?_iff.2 hshown.total
    obtain ⟨slot, hslot⟩ := (exists_slot_iff (s := s)).2 hc.slot
    obtain ⟨perSlotLevel, hperSlotLevel⟩ := exists_roundDamage?_iff.2
      (showable_div_slot hshown.total hslot)
    obtain ⟨versusCantrip, hversusCantrip⟩ :=
      exists_compareToCantrip? hshown.total context.casterLevel.val
    obtain ⟨slotRating, hslotRating⟩ := exists_rateSlot? hshown.total (s.slotLevel castLevel)
    exact ⟨{
      roll, corrected := s.correction?.map fun _ => recorded
      average, minimum := dice.minimum, maximum := dice.maximum
      chance, saveForHalf := (s.resolution context).leavesHalf, expected
      targets := estimate.targets, maxTargets := estimate.maxTargets, total
      sustained, chain, types := s.damageChoice
      perSlotLevel, versusCantrip, slotRating
      tactics := s.tacticalSummary estimate.targets }, estimate, figures, haverage, hestimate,
      hfigures, hchain, hsustained, hchance, hexpected, htotal, ⟨slot, hslot, hperSlotLevel⟩,
      hversusCantrip, hslotRating, rfl⟩

theorem exists_verdict?_iff {s : Spell} {context : Context} {castLevel : Option Int} :
    (∃ v, s.verdict? context castLevel = .ok v) ↔
      ∀ recorded ∈ s.damageRoll, recorded ≠ "" →
        ∃ roll parsed, s.castRoll? recorded castLevel = .ok roll ∧
          Dice.Expression.parse? roll = .ok parsed ∧
          ∀ dice ∈ parsed, s.Calculable context castLevel dice := by
  rw [verdict?]
  cases s.damageRoll with
  | none => exact iff_of_true ⟨_, rfl⟩ nofun
  | some recorded =>
      rw [forall_mem_some]
      by_cases hempty : recorded = ""
      · refine iff_of_true ⟨.harmless .utility, ?_⟩ fun hne => absurd hempty hne
        exact if_pos hempty
      · simp only [if_neg hempty, exists_bind_eq_ok_iff]
        rw [forall_prop_of_true hempty]
        refine exists_congr fun roll => ?_
        rw [exists_and_left]
        refine and_congr_right fun _ => exists_congr fun parsed => and_congr_right fun hparse => ?_
        cases parsed with
        | none => exact iff_of_true ⟨_, rfl⟩ nofun
        | some dice =>
            rw [forall_mem_some, ← exists_damage?_iff (Dice.valid_of_parse? hparse),
              exists_bind_eq_ok_iff]
            exact exists_congr fun d => and_iff_left ⟨_, rfl⟩

theorem exists_analyze?_iff_verdict {s : Spell} {context : Context} {castLevel : Option Int} :
    (∃ a, s.analyze? context castLevel = .ok a) ↔ ∃ v, s.verdict? context castLevel = .ok v := by
  rw [analyze?, exists_bind_eq_ok_iff]
  exact exists_congr fun v => and_iff_left ⟨_, rfl⟩

/-- An analysis finds no damage only where there is no roll or the roll of the casting is no
expression; else it finds the damage of that expression. -/
theorem analyze?_cases {s : Spell} {context : Context} {castLevel : Option Int} {a : Analysis}
    (h : s.analyze? context castLevel = .ok a) :
    (a.damage? = none ∧ ∀ recorded ∈ s.damageRoll, recorded ≠ "" →
      ∃ roll, s.castRoll? recorded castLevel = .ok roll ∧
        Dice.Expression.parse? roll = .ok none) ∨
    ∃ recorded roll dice d, s.damageRoll = some recorded ∧ recorded ≠ "" ∧
      s.castRoll? recorded castLevel = .ok roll ∧ Dice.Expression.parse? roll = .ok (some dice) ∧
      s.damage? context (s.slotLevel castLevel) recorded roll dice = .ok d ∧
      a.damage? = some d := by
  obtain ⟨verdict, hverdict, h⟩ := bind_eq_ok_iff.1 h
  obtain rfl := Except.ok.inj h
  rw [verdict?] at hverdict
  cases hrecorded : s.damageRoll with
  | none =>
      rw [hrecorded] at hverdict
      obtain rfl := Except.ok.inj hverdict
      exact .inl ⟨rfl, fun _ h => absurd h (Option.not_mem_none _)⟩
  | some recorded =>
      rw [hrecorded] at hverdict
      simp only [forall_mem_some]
      by_cases hempty : recorded = ""
      · obtain rfl := Except.ok.inj ((if_pos hempty).symm.trans hverdict)
        exact .inl ⟨rfl, fun hne => absurd hempty hne⟩
      · simp only [if_neg hempty] at hverdict
        obtain ⟨roll, hroll, hverdict⟩ := bind_eq_ok_iff.1 hverdict
        obtain ⟨parsed, hparse, hverdict⟩ := bind_eq_ok_iff.1 hverdict
        cases parsed with
        | none =>
            obtain rfl := Except.ok.inj hverdict
            exact .inl ⟨rfl, fun _ => ⟨roll, hroll, hparse⟩⟩
        | some dice =>
            obtain ⟨d, hd, hverdict⟩ := bind_eq_ok_iff.1 hverdict
            obtain rfl := Except.ok.inj hverdict
            exact .inr ⟨recorded, roll, dice, d, rfl, hempty, hroll, hparse, hd, rfl⟩

/-- An analysis ends with a verdict exactly if the spell names no damage roll, or its roll at
the slot can be read and is no expression, or is one that is calculable. -/
theorem exists_analyze?_iff (s : Spell) (context : Context) (castLevel : Option Int) :
    (∃ a, s.analyze? context castLevel = .ok a) ↔
      ∀ recorded ∈ s.damageRoll, recorded ≠ "" →
        ∃ roll parsed, s.castRoll? recorded castLevel = .ok roll ∧
          Dice.Expression.parse? roll = .ok parsed ∧
          ∀ dice ∈ parsed, s.Calculable context castLevel dice :=
  exists_analyze?_iff_verdict.trans exists_verdict?_iff

end ExpectedDamage.Spell
