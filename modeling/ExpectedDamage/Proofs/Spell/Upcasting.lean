import ExpectedDamage.Proofs.Dice.Scaling
import ExpectedDamage.Proofs.Spell.Analysis
/-!
# Castings with a higher slot

A casting with a higher slot rolls the damage of the spell with the dice of its rule added.
A spell that does damage at its own level does damage with a higher slot exactly if these
dice, where the rule has any, can be rolled with its own (`damage?_isSome_raised_iff`).
-/

namespace ExpectedDamage.Spell

open Combat (Context)

theorem castRoll?_own (s : Spell) (recorded : String) :
    s.castRoll? recorded none = .ok (s.baseRoll recorded) :=
  if_neg (by simp [isRaised, slotLevel])

theorem castRoll?_raised {s : Spell} {level : Int} (h : s.level.val < level) (recorded : String) :
    s.castRoll? recorded (some level) =
      Dice.scaleText? (s.baseRoll recorded) s.level.val level s.slotRule := by
  have hslot : s.slotLevel (some level) = level := max_eq_left h.le
  have hraised : s.isRaised (some level) = true := by
    rw [isRaised, hslot]
    exact decide_eq_true h
  rw [castRoll?, if_pos hraised, hslot]

/-- What the roll of a casting is read as decides whether there is damage. -/
theorem exists_castRoll?_of_analyze? {s : Spell} {context : Context} {castLevel : Option Int}
    {a : Analysis} {recorded : String} (hrecorded : s.damageRoll = some recorded)
    (hne : recorded ≠ "") (h : s.analyze? context castLevel = .ok a) :
    ∃ roll parsed, s.castRoll? recorded castLevel = .ok roll ∧
      Dice.Expression.parse? roll = .ok parsed ∧ a.damage?.isSome = parsed.isSome := by
  rcases analyze?_cases h with ⟨hnone, hroll⟩ | ⟨_, roll, dice, d, hsome, -, hroll, hparse, -, hd⟩
  · obtain ⟨roll, hroll, hparse⟩ := hroll recorded hrecorded hne
    exact ⟨roll, none, hroll, hparse, by rw [hnone]; rfl⟩
  · obtain rfl := Option.some.inj (hrecorded.symm.trans hsome)
    exact ⟨roll, some dice, hroll, hparse, by rw [hd]; rfl⟩

/-- The dice that the rule for higher slots adds to the roll of the spell, if it adds any,
can be rolled with it. -/
def AddsDice (s : Spell) : Prop :=
  ∀ recorded ∈ s.damageRoll, ∀ e, Dice.Expression.parse? (s.baseRoll recorded) = .ok (some e) →
    ∀ w ∈ Dice.addedDice? e s.slotRule, ∀ added, w.term? = .ok added → e.Takes added

/-- A spell that does damage at its own level keeps doing damage with a higher slot exactly if
the dice of its rule can be rolled with its own. -/
theorem damage?_isSome_raised_iff {s : Spell} {context : Context} {level : Int}
    {own raised : Analysis} (hlevel : s.level.val < level)
    (hown : s.analyze? context none = .ok own) (hdamage : own.damage?.isSome = true)
    (hraised : s.analyze? context (some level) = .ok raised) :
    raised.damage?.isSome = true ↔ s.AddsDice := by
  rcases analyze?_cases hown with
    ⟨hnone, -⟩ | ⟨recorded, roll, e, d, hrecorded, hne, hroll, he, -, -⟩
  · rw [hnone] at hdamage
    exact absurd hdamage Bool.false_ne_true
  · obtain rfl := Except.ok.inj ((s.castRoll?_own recorded).symm.trans hroll)
    obtain ⟨scaled, parsed, hscaled, hparsed, hsome⟩ :=
      exists_castRoll?_of_analyze? hrecorded hne hraised
    rw [castRoll?_raised hlevel] at hscaled
    obtain ⟨parsed', hparsed', hiff⟩ := Dice.parse?_of_scaleText? he hlevel hscaled
    obtain rfl := Except.ok.inj (hparsed.symm.trans hparsed')
    rw [hsome, hiff, AddsDice, hrecorded]
    constructor
    · intro hall recorded' hmem e' he'
      obtain rfl := Option.some.inj hmem
      obtain rfl := Option.some.inj (Except.ok.inj (he.symm.trans he'))
      exact hall
    · intro hall
      exact hall recorded rfl e he

/-- A rule that adds no die to dice of other sides takes the damage away. -/
theorem damage?_isSome_raised_iff_no_die :
    let s : Spell :=
      { name := "Ray", level := ⟨1, by decide⟩, damageRoll := some "2d6",
        higherLevel := some "Add 0d8 for each slot level." }
    ∃ own raised, s.analyze? {} none = .ok own ∧ own.damage?.isSome = true ∧
      s.analyze? {} (some 2) = .ok raised ∧ raised.damage?.isSome = false ∧ ¬ s.AddsDice := by
  intro s
  have hown : (fun a => a.damage?.isSome) <$> s.analyze? {} none = .ok true := by
    decide +kernel
  have hraised : (fun a => a.damage?.isSome) <$> s.analyze? {} (some 2) = .ok false := by
    decide +kernel
  obtain ⟨own, hown, hdamage⟩ := map_eq_ok_iff.1 hown
  obtain ⟨raised, hraised, hnone⟩ := map_eq_ok_iff.1 hraised
  refine ⟨own, raised, hown, hdamage, hraised, hnone, fun hadds => ?_⟩
  have hsome := (damage?_isSome_raised_iff (by decide) hown hdamage hraised).2 hadds
  exact absurd (hnone.symm.trans hsome) Bool.false_ne_true

end ExpectedDamage.Spell
