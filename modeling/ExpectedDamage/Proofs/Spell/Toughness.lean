import ExpectedDamage.Proofs.Area.Coverage
import ExpectedDamage.Proofs.Spell.ExactFigures
/-!
# Tougher targets

In exact arithmetic a target that is harder to hit, or better at saving throws, takes no more
damage. The faces with which a spell takes effect and the fortieths of the average roll that
are expected both fall with the odds. A chain adds a geometric series, which falls with its
step, and the number of targets is the same for all of them (`expected_le_of_tougher`).
-/

namespace ExpectedDamage

namespace Spell

/-! Resolutions. -/

namespace Resolution

/-- The same effect at odds that are no better. -/
inductive Harder : Resolution → Resolution → Prop
  | attack {bonus armor bonus' armor' : Int} (h : armor - bonus ≤ armor' - bonus') :
      Harder (.attack bonus armor) (.attack bonus' armor')
  | save {difficulty bonus difficulty' bonus' : Int} (half : Bool)
      (h : difficulty' - bonus' ≤ difficulty - bonus) :
      Harder (.save difficulty bonus half) (.save difficulty' bonus' half)
  | sure : Harder .sure .sure

theorem Harder.faces_le {r r' : Resolution} (h : r.Harder r') : r'.faces ≤ r.faces := by
  cases h with
  | attack h => exact Combat.hitFaces_le h
  | save half h => exact Combat.failFaces_le h
  | sure => exact le_rfl

theorem Harder.fortieths_le {r r' : Resolution} (h : r.Harder r') :
    r'.fortieths ≤ r.fortieths := by
  cases h with
  | attack h =>
      have hfaces := Combat.hitFaces_le h
      rw [fortieths, fortieths]
      omega
  | save half h =>
      have hfaces := Combat.failFaces_le h
      rw [fortieths, fortieths]
      split <;> omega
  | sure => exact le_rfl

/-- Only what always takes effect does so on all faces, and nothing is harder or easier. -/
theorem Harder.eq_or_faces_le {r r' : Resolution} (h : r.Harder r') : r = r' ∨ r.faces ≤ 19 := by
  cases h with
  | attack h => exact .inr (Combat.hitFaces_bounds _ _).2
  | save half h => exact .inr (Combat.failFaces_bounds _ _).2
  | sure => exact .inl rfl

theorem Harder.expected_le {r r' : Resolution} (h : r.Harder r') {average : Rat}
    (haverage : 0 ≤ average) : r'.expected average ≤ r.expected average := by
  have hle : (r'.fortieths : Rat) ≤ r.fortieths := by exact_mod_cast h.fortieths_le
  rw [expected_rat, expected_rat]
  gcongr

end Resolution

/-! Chains. -/

/-- The series falls with its step. -/
theorem chainBonus_le {average chainChance chance chance' : Rat} (haverage : 0 ≤ average)
    (hchain : 0 ≤ chainChance) (hchance : 0 ≤ chance') (hle : chance' ≤ chance)
    (hlt : chainChance * chance < 1) :
    chainBonus average chainChance chance' ≤ chainBonus average chainChance chance := by
  have hstep : chainChance * chance' ≤ chainChance * chance := mul_le_mul_of_nonneg_left hle hchain
  have hnonneg : 0 ≤ chainChance * chance := mul_nonneg hchain (hchance.trans hle)
  rw [chainBonus_rat hlt, chainBonus_rat (hstep.trans_lt hlt)]
  apply div_le_div₀
  · positivity
  · gcongr
  · linarith
  · linarith

theorem Resolution.Harder.chainBonus_le {r r' : Resolution} (h : r.Harder r') {average : Rat}
    (haverage : 0 ≤ average) (c : Chain) :
    chainBonus average c.chance r'.chance ≤ chainBonus average c.chance r.chance := by
  obtain ⟨hchain, hone⟩ := c.chance_bounds
  rcases h.eq_or_faces_le with rfl | hfaces
  · exact le_rfl
  · have hnonneg : (0 : Rat) ≤ r.faces := by exact_mod_cast r.faces_nonneg
    have hnonneg' : (0 : Rat) ≤ r'.faces := by exact_mod_cast r'.faces_nonneg
    have hle : (r'.faces : Rat) ≤ r.faces := by exact_mod_cast h.faces_le
    have hfaces : (r.faces : Rat) ≤ 19 := by exact_mod_cast hfaces
    rw [chance_rat, chance_rat]
    apply Spell.chainBonus_le haverage hchain
    · positivity
    · gcongr
    · calc (c.chance : Rat) * (r.faces / 20) ≤ 1 * (19 / 20) := by gcongr
        _ < 1 := by norm_num

theorem Resolution.Harder.exactFigures_le {r r' : Resolution} (h : r.Harder r') {average : Rat}
    (haverage : 0 ≤ average) {targets : Int} (htargets : 0 ≤ targets) (chain : Option Chain) :
    (exactFigures r' average targets chain).expected ≤
        (exactFigures r average targets chain).expected ∧
      (exactFigures r' average targets chain).total ≤
        (exactFigures r average targets chain).total := by
  have hexpected := h.expected_le haverage
  have htargets : (0 : Rat) ≤ targets := by exact_mod_cast htargets
  have hall := mul_le_mul_of_nonneg_right hexpected htargets
  refine ⟨hexpected, ?_⟩
  cases chain with
  | none => exact hall
  | some c => exact add_le_add hall (h.chainBonus_le haverage c)

end Spell

/-! Contexts. -/

namespace Combat.Context

/-- The same circumstances with a target that is no easier to affect: its armor and its saving
throws are no worse, and the bonuses of the caster are no better. -/
structure Tougher (c c' : Context) : Prop where
  armor : c.targetArmor ≤ c'.targetArmor
  saves : ∀ a, c.targetSaves.bonus a ≤ c'.targetSaves.bonus a
  proficiencyBonus : c'.proficiencyBonus ≤ c.proficiencyBonus
  abilityModifier : c'.abilityModifier ≤ c.abilityModifier
  rest : c' = { c with
    proficiencyBonus := c'.proficiencyBonus, abilityModifier := c'.abilityModifier
    targetArmor := c'.targetArmor, targetSaves := c'.targetSaves }

namespace Tougher

variable {c c' : Context} (h : c.Tougher c')

include h

theorem bonusFor_le (text : Option String) :
    c.targetSaves.bonusFor text ≤ c'.targetSaves.bonusFor text := by
  rw [Saves.bonusFor, Saves.bonusFor]
  cases text.bind Ability.ofText? with
  | none => exact le_rfl
  | some a => exact h.saves a

theorem harder (s : Spell) : (s.resolution c).Harder (s.resolution c') := by
  have hproficiency := h.proficiencyBonus
  have hability := h.abilityModifier
  have harmor := h.armor
  have hsave := h.bonusFor_le s.savingThrow
  rw [Spell.resolution, Spell.resolution]
  split
  · apply Spell.Resolution.Harder.attack
    rw [attackBonus, attackBonus]
    omega
  · split
    · apply Spell.Resolution.Harder.save
      rw [saveDifficulty, saveDifficulty]
      omega
    · exact .sure

/-- The targets are the same. -/
theorem estimate?_eq (text : List Char) :
    Area.estimate? text c' c'.clustered = Area.estimate? text c c.clustered := by
  have hclustered : c'.clustered = c.clustered := by rw [h.rest]
  have hexpected : c'.expectedTargets = c.expectedTargets := by rw [h.rest]
  rw [hclustered]
  exact Area.estimate?_congr hexpected text c.clustered

end Tougher

end Combat.Context

namespace Spell

open Combat (Context)

/-- A tougher target never raises the exact figures: if the average of a casting is not negative,
what is expected of it for one target lies between zero and the average, and that and the
total are at most what they are for an easier target and at least what they are for a tougher
one. -/
theorem expected_le_of_tougher {s : Spell} {context : Context} {castLevel : Option Int}
    {figures : Figures Rat} (h : s.castFigures? context castLevel = .ok (some figures))
    (haverage : 0 ≤ figures.average) :
    0 ≤ figures.expected ∧ figures.expected ≤ figures.average ∧
      (∀ tougher, context.Tougher tougher → ∃ figures' : Figures Rat,
        s.castFigures? tougher castLevel = .ok (some figures') ∧
          figures'.expected ≤ figures.expected ∧ figures'.total ≤ figures.total) ∧
      ∀ easier, easier.Tougher context → ∃ figures' : Figures Rat,
        s.castFigures? easier castLevel = .ok (some figures') ∧
          figures.expected ≤ figures'.expected ∧ figures.total ≤ figures'.total := by
  obtain ⟨dice, estimate, hdice, hestimate, rfl⟩ := castFigures?_rat_iff.1 h
  have haverage : 0 ≤ dice.mean := haverage
  have htargets := Area.targets_nonneg hestimate
  obtain ⟨hlow, hhigh⟩ := (s.resolution context).expected_bounds haverage
  refine ⟨hlow, hhigh, ?_, ?_⟩
  · intro tougher ht
    have hestimate' := (ht.estimate?_eq s.wording).trans hestimate
    exact ⟨_, castFigures?_rat_iff.2 ⟨dice, estimate, hdice, hestimate', rfl⟩,
      (ht.harder s).exactFigures_le haverage htargets _⟩
  · intro easier he
    have hestimate' := (he.estimate?_eq s.wording).symm.trans hestimate
    exact ⟨_, castFigures?_rat_iff.2 ⟨dice, estimate, hdice, hestimate', rfl⟩,
      (he.harder s).exactFigures_le haverage htargets _⟩

/-- A bolt that leaps on, against better armor. -/
theorem expected_le_of_tougher_armored :
    let s : Spell :=
      { key := "chaos-bolt", name := "Chaos Bolt", damageRoll := some "2d8", attackRoll := true }
    let armored : Context := { targetArmor := 20 }
    ∃ figures figures' : Figures Rat, s.castFigures? {} none = .ok (some figures) ∧
      figures.average = 25 / 2 ∧ Context.Tougher {} armored ∧
        s.castFigures? armored none = .ok (some figures') ∧
          0 ≤ figures.expected ∧ figures.expected ≤ figures.average ∧
            figures'.expected ≤ figures.expected ∧ figures'.total ≤ figures.total := by
  intro s armored
  have hcomputed : (fun figures : Option (Figures Rat) => figures.map Figures.average) <$>
      s.castFigures? {} none = .ok (some (25 / 2)) := by
    decide +kernel
  obtain ⟨_, hfigures, hmap⟩ := map_eq_ok_iff.1 hcomputed
  obtain ⟨figures, rfl, haverage⟩ := Option.map_eq_some_iff.1 hmap
  have hnonneg : 0 ≤ figures.average := by
    rw [haverage]
    norm_num
  have htougher : Context.Tougher {} armored :=
    ⟨by decide, fun _ => le_rfl, le_rfl, le_rfl, rfl⟩
  obtain ⟨hlow, hhigh, htougher', -⟩ := expected_le_of_tougher hfigures hnonneg
  obtain ⟨figures', hfigures', hexpected, htotal⟩ := htougher' armored htougher
  exact ⟨figures, figures', hfigures, haverage, htougher, hfigures', hlow, hhigh, hexpected,
    htotal⟩

end Spell

end ExpectedDamage
