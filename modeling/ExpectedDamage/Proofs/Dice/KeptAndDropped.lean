import ExpectedDamage.Proofs.Dice.Average
/-!
# Kept and dropped dice

Of a number of dice the highest are kept exactly if the lowest of the others are dropped, and
every rank is that of a kept or of a dropped die (`rankSum_add_rankSum`). So in exact arithmetic
the averages of both add up to that of all dice, unless one of them is known exactly: the three
highest of four dice with six faces are known as 12.24, which the lowest does not make up for.
-/

namespace ExpectedDamage.Dice

/-- The ranks of the highest dice and of the other ones are all ranks. -/
theorem rankSum_add_rankSum (count kept : Int) :
    KeepRule.rankSum ⟨.highest, kept⟩ count + KeepRule.rankSum ⟨.lowest, count - kept⟩ count =
      count * (count + 1) / 2 := by
  rw [KeepRule.rankSum, KeepRule.rankSum]
  push_cast
  ring

theorem keepMean_of_none {count sides : Int} {rule : KeepRule}
    (h : exactKeepAverage? count sides rule = (none : Option Rat)) :
    keepMean count sides rule = (sides + 1) * rule.rankSum count / (count + 1) := by
  rw [keepMean, h, Option.getD_none]

/-- Where neither is known exactly, the averages of the kept and of the dropped dice add up to
that of all dice. -/
theorem keepMean_add_keepMean {count sides kept : Int} (hcount : 0 ≤ count)
    (hhighest : exactKeepAverage? count sides ⟨.highest, kept⟩ = (none : Option Rat))
    (hlowest : exactKeepAverage? count sides ⟨.lowest, count - kept⟩ = (none : Option Rat)) :
    keepMean count sides ⟨.highest, kept⟩ + keepMean count sides ⟨.lowest, count - kept⟩ =
      count * (sides + 1) / 2 := by
  have hcount : (0 : Rat) ≤ count := by exact_mod_cast hcount
  have hne : (count + 1 : Rat) ≠ 0 := by linarith
  rw [keepMean_of_none hhighest, keepMean_of_none hlowest, ← add_div, ← mul_add,
    rankSum_add_rankSum]
  field_simp

/-- No average of all dice is known exactly. -/
theorem exactKeepAverage?_all (count sides : Int) (mode : KeepMode) :
    exactKeepAverage? count sides ⟨mode, count⟩ = (none : Option Rat) := by
  cases h : (exactKeepAverage? count sides ⟨mode, count⟩ : Option Rat) with
  | none => rfl
  | some average =>
      obtain ⟨rfl, -, hrule, -⟩ | ⟨rfl, -, hrule, -⟩ | ⟨rfl, -, hrule, -⟩ :=
        exactKeepAverage?_cases h
      all_goals simp at hrule

/-- Whichever dice are kept, all of them have the average of the plain dice. -/
theorem keepMean_all {count : Int} (hcount : 0 ≤ count) (sides : Int) (mode : KeepMode) :
    keepMean count sides ⟨mode, count⟩ = count * (sides + 1) / 2 := by
  have hcount : (0 : Rat) ≤ count := by exact_mod_cast hcount
  have hne : (count + 1 : Rat) ≠ 0 := by linarith
  have hranks : KeepRule.rankSum ⟨mode, count⟩ count = count * (count + 1) / 2 := by
    cases mode with
    | highest =>
        rw [KeepRule.rankSum]
        ring
    | lowest => rw [KeepRule.rankSum]
  rw [keepMean_of_none (exactKeepAverage?_all count sides mode), hranks]
  field_simp

section Order

variable {count sides kept : Int} (hkept : 0 ≤ kept) (hle : kept ≤ count)

include hkept hle

/-- The lowest ranks are on average at most the middle one, and the highest at least. -/
theorem rankSum_bounds :
    KeepRule.rankSum ⟨.lowest, kept⟩ count ≤ kept * (count + 1) / 2 ∧
      kept * (count + 1) / 2 ≤ KeepRule.rankSum ⟨.highest, kept⟩ count := by
  have hkept : (0 : Rat) ≤ kept := by exact_mod_cast hkept
  have hle : (kept : Rat) ≤ count := by exact_mod_cast hle
  have hdistance : 0 ≤ kept * (count - kept : Rat) := mul_nonneg hkept (sub_nonneg.2 hle)
  rw [KeepRule.rankSum, KeepRule.rankSum]
  constructor
  · linarith
  · linarith

/-- The lowest dice are worth no more than as many plain ones, -/
theorem keepMean_lowest_le (hsides : 0 ≤ sides) :
    keepMean count sides ⟨.lowest, kept⟩ ≤ kept * (sides + 1) / 2 := by
  cases h : (exactKeepAverage? count sides ⟨.lowest, kept⟩ : Option Rat) with
  | some average =>
      obtain ⟨-, -, hrule, -⟩ | ⟨-, -, hrule, -⟩ | ⟨rfl, rfl, hrule, rfl⟩ :=
        exactKeepAverage?_cases h
      · simp at hrule
      · simp at hrule
      · obtain rfl : kept = 1 := congrArg KeepRule.count hrule
        rw [keepMean, h]
        norm_num
  | none =>
      have hranks := (rankSum_bounds hkept hle).1
      have hcount : (0 : Rat) ≤ count := by exact_mod_cast hkept.trans hle
      have hsides : (0 : Rat) ≤ sides := by exact_mod_cast hsides
      rw [keepMean_of_none h, div_le_iff₀ (by linarith)]
      calc (sides + 1) * KeepRule.rankSum ⟨.lowest, kept⟩ count
          ≤ (sides + 1) * (kept * (count + 1) / 2) :=
            mul_le_mul_of_nonneg_left hranks (by linarith)
        _ = kept * (sides + 1) / 2 * (count + 1) := by ring

/-- and the highest no less. -/
theorem le_keepMean_highest (hsides : 0 ≤ sides) :
    kept * (sides + 1) / 2 ≤ keepMean count sides ⟨.highest, kept⟩ := by
  cases h : (exactKeepAverage? count sides ⟨.highest, kept⟩ : Option Rat) with
  | some average =>
      obtain ⟨rfl, rfl, hrule, rfl⟩ | ⟨rfl, rfl, hrule, rfl⟩ | ⟨-, -, hrule, -⟩ :=
        exactKeepAverage?_cases h
      · obtain rfl : kept = 3 := congrArg KeepRule.count hrule
        rw [keepMean, h]
        norm_num
      · obtain rfl : kept = 1 := congrArg KeepRule.count hrule
        rw [keepMean, h]
        norm_num
      · simp at hrule
  | none =>
      have hranks := (rankSum_bounds hkept hle).2
      have hcount : (0 : Rat) ≤ count := by exact_mod_cast hkept.trans hle
      have hsides : (0 : Rat) ≤ sides := by exact_mod_cast hsides
      rw [keepMean_of_none h, le_div_iff₀ (by linarith)]
      calc (kept * (sides + 1) / 2 * (count + 1) : Rat)
          = (sides + 1) * (kept * (count + 1) / 2) := by ring
        _ ≤ (sides + 1) * KeepRule.rankSum ⟨.highest, kept⟩ count :=
            mul_le_mul_of_nonneg_left hranks (by linarith)

end Order

/-- In exact arithmetic the averages of the kept highest and of the dropped lowest dice add up to
that of the plain dice, if neither of them is known exactly. All dice have the average of the
plain ones, the lowest dice are worth no more than as many plain ones, and the highest no
less. -/
theorem keepAverage?_kept_add_dropped {count sides kept : Int} (hcount : 1 ≤ count)
    (hsides : 1 ≤ sides) (hkept : 0 ≤ kept) (hle : kept ≤ count) :
    ∃ plain highest lowest dropped : Rat,
      Term.average? ⟨count, sides, none⟩ = .ok plain ∧ plain = count * (sides + 1) / 2 ∧
      keepAverage? count sides ⟨.highest, kept⟩ = .ok highest ∧
      keepAverage? count sides ⟨.lowest, kept⟩ = .ok lowest ∧
      keepAverage? count sides ⟨.lowest, count - kept⟩ = .ok dropped ∧
      (exactKeepAverage? count sides ⟨.highest, kept⟩ = (none : Option Rat) →
        exactKeepAverage? count sides ⟨.lowest, count - kept⟩ = (none : Option Rat) →
          highest + dropped = plain) ∧
      (∀ mode, keepAverage? count sides ⟨mode, count⟩ = .ok plain) ∧
      lowest ≤ kept * (sides + 1) / 2 ∧ kept * (sides + 1) / 2 ≤ highest := by
  have hcount : 0 ≤ count := by omega
  have hsides : 0 ≤ sides := by omega
  have hplain : Term.average? ⟨count, sides, none⟩ = .ok (count * (sides + 1) / 2 : Rat) :=
    Term.average?_rat ⟨by omega, by omega, nofun⟩
  refine ⟨_, _, _, _, hplain, rfl, keepAverage?_rat hcount hkept, keepAverage?_rat hcount hkept,
    keepAverage?_rat hcount (Int.sub_nonneg_of_le hle), keepMean_add_keepMean hcount,
    fun mode => ?_, keepMean_lowest_le hkept hle hsides, le_keepMean_highest hkept hle hsides⟩
  rw [← keepMean_all hcount sides mode]
  exact keepAverage?_rat hcount hcount

/-- Of five dice with eight faces, the two highest are worth thirteen and a half and the three
lowest nine. -/
theorem keepAverage?_kept_add_dropped_five :
    ((1 : Int) ≤ 5 ∧ (1 : Int) ≤ 8 ∧ (0 : Int) ≤ 2 ∧ (2 : Int) ≤ 5) ∧
      (exactKeepAverage? 5 8 ⟨.highest, 2⟩ : Option Rat) = none ∧
      (exactKeepAverage? 5 8 ⟨.lowest, 5 - 2⟩ : Option Rat) = none ∧
      keepAverage? 5 8 ⟨.highest, 2⟩ = .ok (27 / 2 : Rat) ∧
      keepAverage? 5 8 ⟨.lowest, 2⟩ = .ok (9 / 2 : Rat) ∧
      keepAverage? 5 8 ⟨.lowest, 5 - 2⟩ = .ok (9 : Rat) ∧
      Term.average? ⟨5, 8, none⟩ = .ok (27 / 2 + 9 : Rat) := by
  have hbounds : (1 : Int) ≤ 5 ∧ (1 : Int) ≤ 8 ∧ (0 : Int) ≤ 2 ∧ (2 : Int) ≤ 5 := by decide
  have hhighest : (exactKeepAverage? 5 8 ⟨.highest, 2⟩ : Option Rat) = none := by decide
  have hlowest : (exactKeepAverage? 5 8 ⟨.lowest, 5 - 2⟩ : Option Rat) = none := by decide
  have hkept : keepAverage? 5 8 ⟨.highest, 2⟩ = .ok (27 / 2 : Rat) := by decide +kernel
  have hdropped : keepAverage? 5 8 ⟨.lowest, 5 - 2⟩ = .ok (9 : Rat) := by decide +kernel
  obtain ⟨plain, highest, lowest, dropped, hplain, -, hkept', -, hdropped', hsum, -, -⟩ :=
    keepAverage?_kept_add_dropped hbounds.1 hbounds.2.1 hbounds.2.2.1 hbounds.2.2.2
  obtain rfl : 27 / 2 = highest := Except.ok.inj (hkept.symm.trans hkept')
  obtain rfl : 9 = dropped := Except.ok.inj (hdropped.symm.trans hdropped')
  obtain rfl := hsum hhighest hlowest
  exact ⟨hbounds, hhighest, hlowest, hkept, by decide +kernel, hdropped, hplain⟩

end ExpectedDamage.Dice
