import ExpectedDamage.Proofs.Number.Magnitude
/-!
# Comparing rounded numbers

Numbers whose exact values are farther apart than their errors are in the order of these
values (`Near.lt`), and a difference has the sign of the exact one (`sub_nonneg_iff`): numbers
that differ do so by a grain, which is not rounded away. A chance that is close to a whole
percent is shown as it (`percent?_of_near`).
-/

namespace ExpectedDamage

namespace Binary64

attribute [local irreducible] grainsPerUnit grainLimit roundLimit significandLimit

theorem not_atMost_iff {x y : Binary64} (hx : x.IsFinite) (hy : y.IsFinite) :
    ¬ y ≤ x ↔ x < y := by
  rw [atMost_iff hy hx, less_iff hx hy, not_le]

theorem Near.lt {x y : Binary64} {q r α β : Rat} (hx : Near x q α) (hy : Near y r β)
    (h : q + α + β < r) : x < y := by
  have hq := abs_le.1 hx.error_le
  have hr := abs_le.1 hy.error_le
  rw [less_iff hx.isFinite hy.isFinite]
  linarith

/-! Differences. -/

theorem isFinite_neg {x : Binary64} (hx : x.IsFinite) : (-x).IsFinite := by
  obtain ⟨s, g, hg, rfl⟩ := exists_of_isFinite hx
  rfl

theorem value_neg {x : Binary64} (hx : x.IsFinite) : (-x).value = -x.value := by
  obtain ⟨s, g, hg, rfl⟩ := exists_of_isFinite hx
  have hneg : -finite s g hg = finite (!s) g hg := rfl
  rw [hneg, value_finite, value_finite]
  cases s <;> simp [signOf]

theorem rounds_sub {x y : Binary64} (hx : x.IsFinite) (hy : y.IsFinite) :
    Rounds (x - y) (x.value - y.value) := by
  rw [sub_eq_add_neg x.value, ← value_neg hy]
  exact rounds_add hx (isFinite_neg hy)

/-- The values of numbers in their order are at least a grain apart. -/
theorem value_add_grain_le {x y : Binary64} (hx : x.IsFinite) (hy : y.IsFinite)
    (h : x.value < y.value) : x.value + grain ≤ y.value := by
  obtain ⟨s, a, ha, rfl⟩ := exists_of_isFinite hx
  obtain ⟨t, b, hb, rfl⟩ := exists_of_isFinite hy
  rw [value_finite, value_finite, ← signedGrains_eq, ← signedGrains_eq] at h ⊢
  have hlt : signedGrains s a < signedGrains t b := by
    exact_mod_cast lt_of_mul_lt_mul_right h grain_pos.le
  have hle : (signedGrains s a : Rat) + 1 ≤ signedGrains t b := by exact_mod_cast hlt
  rw [← add_one_mul]
  exact mul_le_mul_of_nonneg_right hle grain_pos.le

/-- A difference is negative exactly if the exact one is. -/
theorem sub_nonneg_iff {x y : Binary64} (hx : x.IsFinite) (hy : y.IsFinite)
    (h : (x - y).IsFinite) : 0 ≤ x - y ↔ y ≤ x := by
  have hzero : (0 : Binary64).IsFinite ∧ (0 : Binary64).value = 0 := by decide +kernel
  have hround := (rounds_sub hx hy).rounded h
  rw [atMost_iff hzero.1 h, atMost_iff hy hx, hzero.2]
  constructor
  · intro hnonneg
    by_contra hlt
    have hstep := value_add_grain_le hx hy (not_le.1 hlt)
    have hgrain := grain_pos
    have herror := (abs_le.1 hround.abs_sub_le).2
    rw [abs_of_neg (by linarith)] at herror
    linarith
  · intro hle
    exact hround.nonneg (sub_nonneg.2 hle)

end Binary64

/-! Percents. -/

open Binary64

theorem percent?_of_near {x : Binary64} {n : Int} (h : Near x (n / 100) (1 / 2 ^ 50))
    (hn : 0 ≤ n ∧ n ≤ 100) : percent? (.real x) = .ok n := by
  have hlow : (0 : Rat) ≤ n := by exact_mod_cast hn.1
  have hhigh : (n : Rat) ≤ 100 := by exact_mod_cast hn.2
  have hexact : |(n / 100 : Rat)| ≤ 1 := by
    rw [abs_of_nonneg (by positivity), div_le_one (by norm_num)]
    exact hhigh
  have hshown : x.Showable := by
    refine ⟨h.isFinite, lt_of_le_of_lt ?_ (pow_lt_limit (k := 8) (by decide))⟩
    have hsize := h.abs_value_le hexact
    linarith
  obtain ⟨m, hm⟩ := exists_percent?_iff.2 hshown
  have hpercent := hm
  rw [percent?, scale?_hundred] at hpercent
  obtain ⟨hsum, hfloor⟩ := floor?_eq_ok_iff.1 hpercent
  obtain ⟨hscaled, hhalf⟩ := isFinite_of_add hsum
  have nearHundred : Near (quotient 100 1) 100 0 :=
    ⟨by decide +kernel, by decide +kernel⟩
  have nearHalf : Near 0.5 (1 / 2) 0 := ⟨hhalf, by decide +kernel⟩
  have nearScaled : Near (x * quotient 100 1) n (1 / 2 ^ 43) := by
    have hproduct := h.mul nearHundred hexact (abs_of_pos (by norm_num)).le hscaled
    rw [div_mul_cancel₀ _ (by norm_num)] at hproduct
    exact hproduct.mono (by norm_num)
  have nearSum : Near (x * quotient 100 1 + 0.5) (n + 1 / 2) (1 / 2 ^ 42) :=
    (nearScaled.add nearHalf ((abs_of_nonneg hlow).trans_le hhigh)
      (abs_of_pos (by norm_num)).le hsum).mono (by norm_num)
  have herror := abs_le.1 nearSum.error_le
  have hn : ⌊(x * quotient 100 1 + 0.5).value⌋ = n :=
    Int.floor_eq_iff.2 ⟨by linarith, by linarith⟩
  rw [hm, ← hfloor, hn]

end ExpectedDamage
