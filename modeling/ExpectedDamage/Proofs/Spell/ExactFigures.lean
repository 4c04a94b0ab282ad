import ExpectedDamage.Proofs.Spell.Analysis
/-!
# The figures of a casting

The figures of a casting are the same formulas in any carrier (`castFigures?`). In binary64
numbers they are what an analysis shows, rounded (`castFigures?_of_damage?`). Over the
rationals they are exact, and there are exact figures wherever there are any
(`exists_castFigures?_rat`): the chance of an effect is a number of faces of the die, and what
is expected for one target a number of fortieths of the average roll
(`Resolution.expected_rat`).
-/

namespace ExpectedDamage.Spell

open Combat (Context)

/-! Resolutions. -/

namespace Resolution

/-- The faces of the die with which the spell takes its full effect. -/
def faces : Resolution → Int
  | attack bonus armor => Combat.hitFaces bonus armor
  | save difficulty bonus _ => Combat.failFaces difficulty bonus
  | sure => 20

/-- The share of the average roll that is expected, in fortieths. A critical hit counts a face
twice, and where half the damage remains each other face counts half. -/
def fortieths : Resolution → Int
  | attack bonus armor => 2 * (Combat.hitFaces bonus armor + 1)
  | save difficulty bonus half =>
    if half then 20 + Combat.failFaces difficulty bonus else 2 * Combat.failFaces difficulty bonus
  | sure => 40

theorem faces_nonneg (r : Resolution) : 0 ≤ r.faces := by
  cases r with
  | attack bonus armor => exact (Combat.hitFaces_bounds bonus armor).1.trans' (by decide)
  | save difficulty bonus half =>
      exact (Combat.failFaces_bounds difficulty bonus).1.trans' (by decide)
  | sure => decide

theorem fortieths_bounds (r : Resolution) : 0 ≤ r.fortieths ∧ r.fortieths ≤ 40 := by
  cases r with
  | attack bonus armor =>
      have hfaces := Combat.hitFaces_bounds bonus armor
      rw [fortieths]
      omega
  | save difficulty bonus half =>
      have hfaces := Combat.failFaces_bounds difficulty bonus
      rw [fortieths]
      split <;> omega
  | sure => decide

theorem chance_rat (r : Resolution) : (r.chance : Rat) = r.faces / 20 := by
  cases r with
  | attack bonus armor =>
      exact (Combat.singleHitChance_eq Combat.readsConstants_rat bonus armor).trans
        (Combat.twentieths_rat _)
  | save difficulty bonus half =>
      exact (Combat.saveFailChance_eq Combat.readsConstants_rat difficulty bonus).trans
        (Combat.twentieths_rat _)
  | sure => decide +kernel

theorem expected_rat (r : Resolution) (average : Rat) :
    r.expected average = average * (r.fortieths / 40) := by
  have hcrit : (0.05 : Rat) = 1 / 20 := by norm_num
  have hone : (1.0 : Rat) = 1 := by norm_num
  have hhalf : (0.5 : Rat) = 1 / 2 := by norm_num
  have hchance := r.chance_rat
  cases r with
  | attack bonus armor =>
      have h : (attack bonus armor).expected average =
          average * (attack bonus armor).chance + average * 0.05 := rfl
      rw [h, hchance, hcrit, faces, fortieths]
      push_cast
      ring
  | save difficulty bonus half =>
      cases half with
      | true =>
          have h : (save difficulty bonus true).expected average =
              average * (save difficulty bonus true).chance +
                average * (1.0 - (save difficulty bonus true).chance) * 0.5 := rfl
          rw [h, hchance, hone, hhalf, faces, fortieths, if_pos rfl]
          push_cast
          ring
      | false =>
          have h : (save difficulty bonus false).expected average =
              average * (save difficulty bonus false).chance := rfl
          rw [h, hchance, faces, fortieths, if_neg Bool.false_ne_true]
          push_cast
          ring
  | sure =>
      have h : sure.expected average = average * sure.chance := rfl
      rw [h, hchance, faces, fortieths]
      norm_num

theorem expected_bounds (r : Resolution) {average : Rat} (h : 0 ≤ average) :
    0 ≤ r.expected average ∧ r.expected average ≤ average := by
  obtain ⟨hlow, hhigh⟩ := r.fortieths_bounds
  have hlow : (0 : Rat) ≤ r.fortieths := by exact_mod_cast hlow
  have hhigh : (r.fortieths : Rat) ≤ 40 := by exact_mod_cast hhigh
  rw [expected_rat]
  exact ⟨by positivity, mul_le_of_le_one_right h ((div_le_one (by norm_num)).2 hhigh)⟩

end Resolution

/-! Chains. -/

theorem Chain.chance_rat (c : Chain) : (c.chance : Rat) = 1 / c.oneIn := by
  have h : (c.chance : Rat) = Rat.divInt 1 c.oneIn := rfl
  rw [h, Rat.divInt_eq_div, Int.cast_one, Int.cast_natCast]

theorem Chain.chance_bounds (c : Chain) : 0 ≤ (c.chance : Rat) ∧ (c.chance : Rat) ≤ 1 := by
  rw [chance_rat]
  refine ⟨by positivity, ?_⟩
  rcases Nat.eq_zero_or_pos c.oneIn with hzero | hpos
  · simp [hzero]
  · have hone : (1 : Rat) ≤ c.oneIn := by exact_mod_cast hpos
    exact (div_le_one (by linarith)).2 hone

theorem chainBonus_rat {average chainChance chance : Rat} (h : chainChance * chance < 1) :
    chainBonus average chainChance chance =
      average * (21 / 20) * (chainChance * chance) / (1 - chainChance * chance) := by
  have hunfold : chainBonus average chainChance chance =
      if decide ((1.0 : Rat) ≤ chainChance * chance) then 0.0
      else average * (1.0 + 0.05) * (chainChance * chance) / (1.0 - chainChance * chance) := rfl
  have hone : (1.0 : Rat) = 1 := by norm_num
  have hfactor : (1 + 0.05 : Rat) = 21 / 20 := by norm_num
  rw [hunfold, hone, hfactor, decide_eq_false h.not_ge, if_neg Bool.false_ne_true]

/-! Castings. -/

/-- The dice of a casting, if there are any. -/
def castDice? (s : Spell) (castLevel : Option Int) :
    Except ArithmeticFault (Option Dice.Expression) := do
  match s.damageRoll with
  | none => return none
  | some recorded =>
    if recorded = "" then return none
    else Dice.Expression.parse? (← s.castRoll? recorded castLevel)

/-- The figures of a casting, if it has dice, before any of them is rounded for display. -/
def castFigures? {α : Type} [Figure α] (s : Spell) (context : Context) (castLevel : Option Int) :
    Except ArithmeticFault (Option (Figures α)) := do
  match ← s.castDice? castLevel with
  | none => return none
  | some dice =>
    let average : α ← dice.mean?
    let estimate ← Area.estimate? s.wording context context.clustered
    some <$> figures? (s.resolution context) average estimate.targets
      (s.correction?.bind (·.chain))

theorem castDice?_eq_some {s : Spell} {castLevel : Option Int} {recorded roll : String}
    {parsed : Option Dice.Expression} (hrecorded : s.damageRoll = some recorded)
    (hne : recorded ≠ "") (hroll : s.castRoll? recorded castLevel = .ok roll)
    (hparse : Dice.Expression.parse? roll = .ok parsed) : s.castDice? castLevel = .ok parsed := by
  rw [castDice?, hrecorded]
  simp only [if_neg hne]
  exact bind_eq_ok_iff.2 ⟨roll, hroll, hparse⟩

theorem valid_of_castDice? {s : Spell} {castLevel : Option Int} {dice : Dice.Expression}
    (h : s.castDice? castLevel = .ok (some dice)) : dice.Valid := by
  rw [castDice?] at h
  split at h
  · exact nomatch h
  · split at h
    · exact nomatch h
    · obtain ⟨roll, -, hparse⟩ := bind_eq_ok_iff.1 h
      exact Dice.valid_of_parse? hparse

theorem castFigures?_eq_some_iff {α : Type} [Figure α] {s : Spell} {context : Context}
    {castLevel : Option Int} {figures : Figures α} :
    s.castFigures? context castLevel = .ok (some figures) ↔ ∃ dice average estimate,
      s.castDice? castLevel = .ok (some dice) ∧ dice.mean? = .ok average ∧
        Area.estimate? s.wording context context.clustered = .ok estimate ∧
          figures? (s.resolution context) average estimate.targets
            (s.correction?.bind (·.chain)) = .ok figures := by
  rw [castFigures?, bind_eq_ok_iff]
  constructor
  · rintro ⟨dice, hdice, h⟩
    cases dice with
    | none => exact nomatch h
    | some dice =>
        obtain ⟨average, haverage, h⟩ := bind_eq_ok_iff.1 h
        obtain ⟨estimate, hestimate, h⟩ := bind_eq_ok_iff.1 h
        obtain ⟨_, hfigures, heq⟩ := map_eq_ok_iff.1 h
        obtain rfl := Option.some.inj heq
        exact ⟨dice, average, estimate, hdice, haverage, hestimate, hfigures⟩
  · rintro ⟨dice, average, estimate, hdice, haverage, hestimate, hfigures⟩
    exact ⟨some dice, hdice, bind_eq_ok_iff.2 ⟨average, haverage, bind_eq_ok_iff.2
      ⟨estimate, hestimate, map_eq_ok_iff.2 ⟨figures, hfigures, rfl⟩⟩⟩⟩

/-- An analysis that finds damage shows the figures of the casting, rounded. -/
theorem castFigures?_of_damage? {s : Spell} {context : Context} {castLevel : Option Int}
    {a : Analysis} {d : Damage} (h : s.analyze? context castLevel = .ok a)
    (hd : a.damage? = some d) : ∃ figures : Figures Binary64,
      s.castFigures? context castLevel = .ok (some figures) ∧
        roundDamage? figures.expected = .ok d.expected ∧
          roundDamage? figures.total = .ok d.total := by
  rcases analyze?_cases h with
    ⟨hnone, -⟩ | ⟨recorded, roll, dice, d', hrecorded, hne, hroll, hparse, hdamage, hsome⟩
  · exact nomatch hnone.symm.trans hd
  · obtain rfl := Option.some.inj (hsome.symm.trans hd)
    obtain ⟨area, unrounded, hcalculated⟩ := damage?_eq_ok_iff.1 hdamage
    refine ⟨unrounded, castFigures?_eq_some_iff.2 ⟨dice, d'.average, area, ?_,
      hcalculated.average, hcalculated.estimate, hcalculated.figures⟩, hcalculated.expected,
      hcalculated.total⟩
    exact castDice?_eq_some hrecorded hne hroll hparse

/-- The figures in exact arithmetic. -/
def exactFigures (r : Resolution) (average : Rat) (targets : Int) (chain : Option Chain) :
    Figures Rat :=
  let all := r.expected average * targets
  let bonus := chain.map fun c => chainBonus average c.chance r.chance
  let total :=
    match bonus with
    | some b => all + b
    | none => all
  ⟨average, r.chance, r.expected average, bonus, total⟩

theorem figures?_rat (r : Resolution) (average : Rat) (targets : Int) (chain : Option Chain) :
    figures? r average targets chain = .ok (exactFigures r average targets chain) := by
  have htargets : (Figure.ofInt? targets : Except ArithmeticFault Rat) = .ok targets := by
    rw [Figure.ofInt?, Figure.quotient?_rat (by decide), Int.cast_one, div_one]
  rw [figures?, htargets]
  cases chain <;> rfl

/-- The exact figures of a casting: its average is the mean of its dice. -/
theorem castFigures?_rat_iff {s : Spell} {context : Context} {castLevel : Option Int}
    {figures : Figures Rat} :
    s.castFigures? context castLevel = .ok (some figures) ↔ ∃ dice estimate,
      s.castDice? castLevel = .ok (some dice) ∧
        Area.estimate? s.wording context context.clustered = .ok estimate ∧
          exactFigures (s.resolution context) dice.mean estimate.targets
            (s.correction?.bind (·.chain)) = figures := by
  simp only [castFigures?_eq_some_iff, figures?_rat]
  constructor
  · rintro ⟨dice, average, estimate, hdice, haverage, hestimate, hfigures⟩
    have hmean := Dice.Expression.mean?_rat (valid_of_castDice? hdice)
    obtain rfl := Except.ok.inj (hmean.symm.trans haverage)
    exact ⟨dice, estimate, hdice, hestimate, Except.ok.inj hfigures⟩
  · rintro ⟨dice, estimate, hdice, hestimate, rfl⟩
    exact ⟨dice, dice.mean, estimate, hdice,
      Dice.Expression.mean?_rat (valid_of_castDice? hdice), hestimate, rfl⟩

/-- Where there are figures in some carrier, there are exact ones. -/
theorem exists_castFigures?_rat {α : Type} [Figure α] {s : Spell} {context : Context}
    {castLevel : Option Int} {figures : Figures α}
    (h : s.castFigures? context castLevel = .ok (some figures)) :
    ∃ exact : Figures Rat, s.castFigures? context castLevel = .ok (some exact) := by
  obtain ⟨dice, -, estimate, hdice, -, hestimate, -⟩ := castFigures?_eq_some_iff.1 h
  exact ⟨_, castFigures?_rat_iff.2 ⟨dice, estimate, hdice, hestimate, rfl⟩⟩

end ExpectedDamage.Spell
