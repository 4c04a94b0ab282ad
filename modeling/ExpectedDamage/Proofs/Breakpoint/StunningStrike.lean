import ExpectedDamage.Breakpoint.Resource
import ExpectedDamage.Proofs.Combat.ChanceOrder
import ExpectedDamage.Proofs.Number.Magnitude
/-!
# The chance of a stun

The worth of a stun takes the chance of a failed saving throw to be a quotient that is kept
between five and ninety-five percent, while that of a saving throw is found from the faces of
the die on which it fails. The two agree: the quotient is rounded, but never across a bound
(`clamp_twentieths`), and between the bounds it is the same quotient.
-/

namespace ExpectedDamage.Breakpoint

open Combat Binary64

/-! Numbers kept between two bounds. -/

section Clamp

variable {low high x : Binary64}

theorem clamp_of_not_low_lt (hhigh : x < high) (hlow : ¬ low < x) : clamp low high x = low := by
  rw [clamp, if_pos hhigh]
  exact if_neg hlow

theorem clamp_of_not_lt_high (hbounds : low < high) (hhigh : ¬ x < high) :
    clamp low high x = high := by
  rw [clamp, if_neg hhigh]
  exact if_pos hbounds

end Clamp

/-- The quotient of a number that is not positive is rounded to next to nothing. -/
theorem value_twentieths_le {n : Int} (hn : n ≤ 0) (h : (twentieths n : Binary64).IsFinite) :
    (twentieths n : Binary64).value ≤ 1 / 2 ^ 52 := by
  have hquotient : ((n : Rat) / (20 : Int)) ≤ 0 :=
    div_nonpos_of_nonpos_of_nonneg (by exact_mod_cast hn) (by norm_num)
  rw [twentieths_binary64] at h ⊢
  have herror := (abs_le.1 (rounded_quotient (by decide) h).abs_sub_le).2
  have hgrain := grain_le
  rw [abs_of_nonpos hquotient] at herror
  linarith

/-- A number of twentieths is kept between one and nineteen of them. -/
theorem clamp_twentieths {n : Int} (h : (twentieths n : Binary64).IsFinite) :
    clamp 0.05 0.95 (twentieths n) = twentieths (max 1 (min 19 n)) := by
  have hlow : (0.05 : Binary64).IsFinite ∧ 1 / 2 ^ 52 ≤ (0.05 : Binary64).value := by
    decide +kernel
  have hhigh : (0.95 : Binary64).IsFinite ∧ (0.95 : Binary64).value ≤ 1 ∧
      1 / 2 ^ 52 < (0.95 : Binary64).value := by decide +kernel
  by_cases hnone : n ≤ 0
  · have hfaces : max 1 (min 19 n) = 1 := by omega
    have hvalue := value_twentieths_le hnone h
    rw [hfaces, ← readsConstants_binary64.low]
    apply clamp_of_not_low_lt
    · rw [less_iff h hhigh.1]
      linarith
    · rw [less_iff hlow.1 h]
      linarith
  · by_cases hall : 20 ≤ n
    · have hfaces : max 1 (min 19 n) = 19 := by omega
      have hvalue := one_le_quotient (by decide) hall (twentieths_binary64 n ▸ h)
      rw [← twentieths_binary64] at hvalue
      rw [hfaces, ← readsConstants_binary64.high]
      apply clamp_of_not_lt_high
      · decide +kernel
      · rw [less_iff h hhigh.1]
        linarith
    · have hfaces : max 1 (min 19 n) = n := by omega
      rw [hfaces]
      exact forall_faces (P := fun _ n => clamp 0.05 0.95 (twentieths n) = twentieths n)
        (by decide +kernel) .none (by omega) (by omega)

/-! The worth of a stun. -/

attribute [local irreducible] grainsPerUnit grainLimit roundLimit

theorem quotient?_twenty_eq_ok_iff {n : Int} {x : Binary64} :
    Binary64.quotient? n 20 = .ok x ↔ |(n / 20 : Rat)| < limit ∧ twentieths n = x := by
  rw [quotient?_eq_ok_iff, twentieths_binary64, Int.cast_ofNat]
  exact and_iff_right (by decide)

section Stun

variable {monkLevel wisdom constitutionSave remainingKi difficulty : Int}

/-- There is a difficulty exactly if the level is not too large for a quotient. -/
theorem exists_stunDifficulty?_iff :
    (∃ difficulty, stunDifficulty? monkLevel wisdom = .ok difficulty) ↔
      |(monkLevel / 4 : Rat)| < limit := by
  rw [stunDifficulty?, exists_bind_eq_ok_iff]
  constructor
  · rintro ⟨x, hx, -⟩
    exact (quotient?_eq_ok_iff.1 hx).2.1
  · intro hlimit
    have hfinite := (rounds_quotient (n := monkLevel) (d := 4) (by decide)).isFinite_iff.2 hlimit
    have hfloor : (-quotient monkLevel 4).floor? = .ok ⌊(-quotient monkLevel 4).value⌋ :=
      floor?_eq_ok_iff.2 ⟨isFinite_neg hfinite, rfl⟩
    refine ⟨_, quotient?_eq_ok_iff.2 ⟨by decide, hlimit, rfl⟩, ?_⟩
    rw [ceil?, hfloor]
    exact ⟨_, rfl⟩

/-- The worth of the ki that is left is always a number. -/
theorem exists_kiWorth (remainingKi : Int) :
    ∃ x, Binary64.quotient? 10 (max 1 remainingKi) = .ok x := by
  have hpos : (1 : Rat) ≤ (max 1 remainingKi : Int) := by exact_mod_cast le_max_left 1 remainingKi
  have hten : |((10 : Int) / (max 1 remainingKi : Int) : Rat)| ≤ 2 ^ 4 := by
    rw [abs_of_nonneg (by positivity), div_le_iff₀ (by linarith)]
    push_cast at hpos ⊢
    linarith
  obtain ⟨x, hx, -⟩ := exists_quotient?_within (by omega) hten (attained_pow (by decide))
  exact ⟨x, hx⟩

/-- What the worth of a stun is calculated from. -/
theorem stunningStrike?_eq_ok {s : StunningStrike}
    (h : stunningStrike? monkLevel wisdom constitutionSave remainingKi = .ok s) :
    stunDifficulty? monkLevel wisdom = .ok s.difficulty ∧
      |((s.difficulty - constitutionSave - 1 : Int) / 20 : Rat)| < limit ∧
        percent? (.real (clamp 0.05 0.95 (twentieths (s.difficulty - constitutionSave - 1)))) =
          .ok s.failPercent := by
  obtain ⟨difficulty, hdifficulty, h⟩ := bind_eq_ok_iff.1 h
  obtain ⟨fail, hfail, h⟩ := bind_eq_ok_iff.1 h
  obtain ⟨kiWorth, -, h⟩ := bind_eq_ok_iff.1 h
  obtain ⟨percent, hpercent, h⟩ := bind_eq_ok_iff.1 h
  obtain ⟨hlimit, rfl⟩ := quotient?_twenty_eq_ok_iff.1 hfail
  obtain rfl := Except.ok.inj h
  exact ⟨hdifficulty, hlimit, hpercent⟩

/-- In whole percents a quotient within the range is what the faces on which the saving throw
fails give. -/
theorem percent?_clamp_twentieths
    (hlimit : |((difficulty - constitutionSave - 1 : Int) / 20 : Rat)| < limit) :
    percent? (.real (clamp 0.05 0.95 (twentieths (difficulty - constitutionSave - 1)))) =
      percent? (.real (saveFailChance difficulty constitutionSave)) := by
  have hround := rounds_quotient (n := difficulty - constitutionSave - 1) (d := 20) (by decide)
  have hfinite := hround.isFinite_iff.2 hlimit
  rw [← twentieths_binary64] at hfinite
  rw [clamp_twentieths hfinite, saveFailChance_eq readsConstants_binary64, failFaces]

theorem exists_stunningStrike? (hdifficulty : stunDifficulty? monkLevel wisdom = .ok difficulty)
    (hlimit : |((difficulty - constitutionSave - 1 : Int) / 20 : Rat)| < limit) :
    ∃ s, stunningStrike? monkLevel wisdom constitutionSave remainingKi = .ok s := by
  have hfail := quotient?_twenty_eq_ok_iff.2 ⟨hlimit, rfl⟩
  obtain ⟨kiWorth, hworth⟩ := exists_kiWorth remainingKi
  have hpercent := (percent?_clamp_twentieths hlimit).trans
    (percent?_saveFailChance difficulty constitutionSave)
  rw [stunningStrike?, hdifficulty]
  refine exists_bind_eq_ok_iff.2 ⟨_, rfl, exists_bind_eq_ok_iff.2 ⟨_, hfail, ?_⟩⟩
  refine exists_bind_eq_ok_iff.2 ⟨_, hworth, exists_bind_eq_ok_iff.2 ⟨_, hpercent, ?_⟩⟩
  exact ⟨_, rfl⟩

end Stun

/-- The worth of a stun has the chance of a failed saving throw: in whole percents it is that
of a saving throw against the difficulty that is reported. There is a worth as long as the two
quotients that it is calculated from, of the level and of the difficulty less the bonus, are
within the range of the numbers. -/
theorem stunningStrike?_agrees_with_save (monkLevel wisdom constitutionSave remainingKi : Int) :
    (∀ s, stunningStrike? monkLevel wisdom constitutionSave remainingKi = .ok s →
      stunDifficulty? monkLevel wisdom = .ok s.difficulty ∧
        percent? (.real (saveFailChance s.difficulty constitutionSave)) = .ok s.failPercent) ∧
    ((∃ s, stunningStrike? monkLevel wisdom constitutionSave remainingKi = .ok s) ↔
      |(monkLevel / 4 : Rat)| < limit ∧
        ∀ difficulty, stunDifficulty? monkLevel wisdom = .ok difficulty →
          |((difficulty - constitutionSave - 1 : Int) / 20 : Rat)| < limit) := by
  refine ⟨fun s h => ?_, ⟨?_, ?_⟩⟩
  · obtain ⟨hdifficulty, hlimit, hpercent⟩ := stunningStrike?_eq_ok h
    exact ⟨hdifficulty, (percent?_clamp_twentieths hlimit).symm.trans hpercent⟩
  · rintro ⟨s, h⟩
    obtain ⟨hdifficulty, hlimit, -⟩ := stunningStrike?_eq_ok h
    refine ⟨exists_stunDifficulty?_iff.1 ⟨_, hdifficulty⟩, fun difficulty hother => ?_⟩
    obtain rfl := Except.ok.inj (hdifficulty.symm.trans hother)
    exact hlimit
  · rintro ⟨hlevel, hlimit⟩
    obtain ⟨difficulty, hdifficulty⟩ := exists_stunDifficulty?_iff.2 hlevel
    exact exists_stunningStrike? hdifficulty (hlimit difficulty hdifficulty)

/-- Against a difficulty of nineteen, a bonus of six leaves a chance between the bounds, one of
minus two the highest, and one of twenty-five the lowest. -/
theorem stunningStrike?_agrees_with_save_nineteen :
    let good := "Good chance - worth attempting"
    let low := "Low success chance - save your ki"
    (stunningStrike? 17 5 6 3 = .ok ⟨19, 60, true, good⟩ ∧
      percent? (.real (saveFailChance 19 6)) = .ok 60) ∧
    (stunningStrike? 17 5 (-2) 3 = .ok ⟨19, 95, true, good⟩ ∧
      percent? (.real (saveFailChance 19 (-2))) = .ok 95) ∧
    (stunningStrike? 17 5 25 3 = .ok ⟨19, 5, false, low⟩ ∧
      percent? (.real (saveFailChance 19 25)) = .ok 5) := by
  intro good low
  have hgood : stunningStrike? 17 5 6 3 = .ok ⟨19, 60, true, good⟩ := by decide +kernel
  have hbad : stunningStrike? 17 5 (-2) 3 = .ok ⟨19, 95, true, good⟩ := by decide +kernel
  have hbest : stunningStrike? 17 5 25 3 = .ok ⟨19, 5, false, low⟩ := by decide +kernel
  exact ⟨⟨hgood, ((stunningStrike?_agrees_with_save 17 5 6 3).1 _ hgood).2⟩,
    ⟨hbad, ((stunningStrike?_agrees_with_save 17 5 (-2) 3).1 _ hbad).2⟩,
    ⟨hbest, ((stunningStrike?_agrees_with_save 17 5 25 3).1 _ hbest).2⟩⟩

end ExpectedDamage.Breakpoint
