import ExpectedDamage.Proofs.Number.Range
/-!
# The order of results

Rounding keeps the order of exact results (`Rounds.value_le`). Where two calculations take
the same steps on numbers that are not negative, and the operands of the second are not
smaller than those of the first, neither is its result: `Below` goes from the operands of
a step to its results. Figures that are shown are `Plain`: equal ones are the same number.
-/

namespace ExpectedDamage.Binary64

attribute [local irreducible] grainsPerUnit grainLimit roundLimit

/-- Of two results that are not negative, the exact order is that of the rounded ones. -/
theorem Rounds.value_le {x y : Binary64} {p q : Rat} (hx : Rounds x p) (hy : Rounds y q)
    (hfinite : x.IsFinite) (hfinite' : y.IsFinite) (hp : 0 ≤ p) (hle : p ≤ q) :
    x.value ≤ y.value := by
  have hq : 0 ≤ q := hp.trans hle
  obtain ⟨n, d, hd, hcount, hvalue⟩ := hx.exists_abs
  obtain ⟨m, e, he, hcount', hvalue'⟩ := hy.exists_abs
  rw [abs_of_nonneg hp] at hcount
  rw [abs_of_nonneg hq] at hcount'
  have hdpos : (0 : Rat) < d := by exact_mod_cast hd
  have hepos : (0 : Rat) < e := by exact_mod_cast he
  have horder : n * e ≤ m * d := by
    rw [hcount, hcount', mul_le_mul_iff_left₀ grain_pos, div_le_div_iff₀ hdpos hepos] at hle
    exact_mod_cast hle
  have hnearest : (nearest n d : Rat) ≤ nearest m e := by exact_mod_cast nearest_mono hd he horder
  have hvalue := hvalue hfinite
  have hvalue' := hvalue' hfinite'
  rw [abs_of_nonneg ((hx.rounded hfinite).nonneg hp)] at hvalue
  rw [abs_of_nonneg ((hy.rounded hfinite').nonneg hq)] at hvalue'
  rw [hvalue, hvalue']
  exact mul_le_mul_of_nonneg_right hnearest grain_pos.le

/-- A rounded number that is not infinite is finite. -/
theorem Rounds.isFinite_of_not_isInfinite {x : Binary64} {q : Rat} (h : Rounds x q)
    (hx : ¬ x.isInfinite = true) : x.IsFinite := by
  obtain ⟨s, n, d, -, -, rfl⟩ := h
  rw [round] at hx ⊢
  split
  · rfl
  · next hlarge =>
      rw [dif_neg hlarge] at hx
      exact absurd rfl hx

/-- Two numbers in their order, none of them negative. -/
structure Below (x y : Binary64) : Prop where
  isFinite : x.IsFinite
  isFinite' : y.IsFinite
  nonneg : 0 ≤ x.value
  value_le : x.value ≤ y.value

theorem Rounds.below {x y : Binary64} {p q : Rat} (hx : Rounds x p) (hy : Rounds y q)
    (hfinite : x.IsFinite) (hfinite' : y.IsFinite) (hp : 0 ≤ p) (hle : p ≤ q) : Below x y where
  isFinite := hfinite
  isFinite' := hfinite'
  nonneg := (hx.rounded hfinite).nonneg hp
  value_le := hx.value_le hy hfinite hfinite' hp hle

/-- Quotients of whole numbers are in the order of the fractions. -/
theorem below_quotient?_of_mul_le {a b d e : Int} {x y : Binary64} (ha : 0 ≤ a) (hd : 0 < d)
    (he : 0 < e) (hle : a * e ≤ b * d) (hx : quotient? a d = .ok x) (hy : quotient? b e = .ok y) :
    Below x y := by
  obtain ⟨hzero, hlimit, rfl⟩ := quotient?_eq_ok_iff.1 hx
  obtain ⟨hzero', hlimit', rfl⟩ := quotient?_eq_ok_iff.1 hy
  have hd : (0 : Rat) < d := by exact_mod_cast hd
  have he : (0 : Rat) < e := by exact_mod_cast he
  have ha : (0 : Rat) ≤ a := by exact_mod_cast ha
  have hle : (a * e : Rat) ≤ b * d := by exact_mod_cast hle
  have hround := rounds_quotient (n := a) hzero
  have hround' := rounds_quotient (n := b) hzero'
  apply hround.below hround' (hround.isFinite_iff.2 hlimit) (hround'.isFinite_iff.2 hlimit')
  · positivity
  · exact (div_le_div_iff₀ hd he).2 hle

theorem below_quotient? {a b d : Int} {x y : Binary64} (ha : 0 ≤ a) (hab : a ≤ b) (hd : 0 < d)
    (hx : quotient? a d = .ok x) (hy : quotient? b d = .ok y) : Below x y :=
  below_quotient?_of_mul_le ha hd hd (Int.mul_le_mul_of_nonneg_right hab hd.le) hx hy

namespace Below

variable {x y z w : Binary64}

theorem refl (hx : x.IsFinite) (hnonneg : 0 ≤ x.value) : Below x x := ⟨hx, hx, hnonneg, le_rfl⟩

theorem nonneg' (h : Below x y) : 0 ≤ y.value := h.nonneg.trans h.value_le

theorem mul (h : Below x y) (h' : Below z w) (hfinite : (x * z).IsFinite)
    (hfinite' : (y * w).IsFinite) : Below (x * z) (y * w) := by
  have hround := rounds_mul h.isFinite h'.isFinite
  have hround' := rounds_mul h.isFinite' h'.isFinite'
  apply hround.below hround' hfinite hfinite'
  · exact mul_nonneg h.nonneg h'.nonneg
  · exact mul_le_mul h.value_le h'.value_le h'.nonneg h.nonneg'

theorem add (h : Below x y) (h' : Below z w) (hfinite : (x + z).IsFinite)
    (hfinite' : (y + w).IsFinite) : Below (x + z) (y + w) := by
  have hround := rounds_add h.isFinite h'.isFinite
  have hround' := rounds_add h.isFinite' h'.isFinite'
  apply hround.below hround' hfinite hfinite'
  · exact add_nonneg h.nonneg h'.nonneg
  · exact add_le_add h.value_le h'.value_le

/-- The nearest whole numbers, halves up, are in the same order. -/
theorem floor?_half_le (h : Below x y) {m n : Int} (hm : (x + 0.5).floor? = .ok m)
    (hn : (y + 0.5).floor? = .ok n) : 0 ≤ m ∧ m ≤ n := by
  obtain ⟨hfinite, rfl⟩ := floor?_eq_ok_iff.1 hm
  obtain ⟨hfinite', rfl⟩ := floor?_eq_ok_iff.1 hn
  have hhalf : Below 0.5 0.5 := refl (by decide +kernel) (by decide +kernel)
  have hsum := h.add hhalf hfinite hfinite'
  exact ⟨Int.floor_nonneg.2 hsum.nonneg, Int.floor_le_floor hsum.value_le⟩

end Below

/-- Of three numbers in their order none is not a number. -/
theorem atMost_trans {x y z : Binary64} (h : x ≤ y) (h' : y ≤ z) : x ≤ z := by
  change x.atMost y = true at h
  change y.atMost z = true at h'
  change x.atMost z = true
  cases x <;> cases y <;> cases z <;> simp_all [atMost]
  · omega
  · rcases h with h | h
    · exact .inl h
    · exact .inr (by simpa [h] using h')

/-! Numbers that have one spelling. -/

/-- A finite number that is no negative zero. -/
def Plain : Binary64 → Prop
  | finite negative grains _ => negative = true → grains ≠ 0
  | _ => False

theorem Plain.isFinite {x : Binary64} (h : x.Plain) : x.IsFinite := by
  cases x with
  | finite s g hg => rfl
  | infinite s => exact h.elim
  | notANumber => exact h.elim

/-- A plain number is determined by its value. -/
theorem Plain.eq_of_value_eq {x y : Binary64} (hx : x.Plain) (hy : y.Plain)
    (h : x.value = y.value) : x = y := by
  obtain ⟨s, a, ha, rfl⟩ := exists_of_isFinite hx.isFinite
  obtain ⟨t, b, hb, rfl⟩ := exists_of_isFinite hy.isFinite
  rw [value_finite, value_finite, ← signedGrains_eq, ← signedGrains_eq,
    mul_left_inj' grain_pos.ne', Int.cast_inj] at h
  cases s with
  | true =>
      have ha0 : a ≠ 0 := hx rfl
      cases t with
      | true =>
          obtain rfl : a = b := by simpa [signedGrains] using h
          rfl
      | false =>
          have h : -(a : Int) = b := h
          omega
  | false =>
      cases t with
      | true =>
          have hb0 : b ≠ 0 := hy rfl
          have h : (a : Int) = -b := h
          omega
      | false =>
          obtain rfl : a = b := by simpa [signedGrains] using h
          rfl

theorem Plain.eq_of_le {x y : Binary64} (hx : x.Plain) (hy : y.Plain) (h : x ≤ y) (h' : y ≤ x) :
    x = y :=
  hx.eq_of_value_eq hy (le_antisymm ((atMost_iff hx.isFinite hy.isFinite).1 h)
    ((atMost_iff hy.isFinite hx.isFinite).1 h'))

/-- Zero added to a plain number leaves it as it is. -/
theorem Plain.add_zero {x : Binary64} (hx : x.Plain) : x + 0.0 = x := by
  obtain ⟨s, g, hg, rfl⟩ := exists_of_isFinite hx.isFinite
  have hsum : finite s g hg + 0.0 = roundSigned (signedGrains s g) false := by
    change roundSigned (signedGrains s g + 0) (s && false) = _
    rw [Int.add_zero, Bool.and_false]
  rw [hsum, roundSigned]
  by_cases hzero : g = 0
  · subst hzero
    cases s with
    | true => exact absurd rfl (hx rfl)
    | false => rfl
  · have hnearest : nearest g 1 = g := by
      have hself := nearest_mul_self Nat.one_pos hg.2
      rwa [Nat.mul_one] at hself
    have hround : round s g 1 = finite s g hg := by
      simp only [round, hnearest, dif_pos hg.1]
    have hsign : decide (signedGrains s g < 0) = s := by
      cases s with
      | true => exact decide_eq_true (Int.neg_neg_of_pos (by omega))
      | false => exact decide_eq_false (Int.not_lt.2 (Int.natCast_nonneg g))
    have hcount : (signedGrains s g).natAbs = g := by
      cases s with
      | true => exact Int.natAbs_neg g
      | false => rfl
    rw [if_neg (by omega), hsign, hcount, hround]

/-- A quotient by a number of grains below one is not rounded to zero. -/
theorem plain_of_quotient? {n d : Int} {x : Binary64} (hd : 0 < d) (hle : d ≤ grainsPerUnit)
    (h : quotient? n d = .ok x) : x.Plain := by
  obtain ⟨hzero, hlimit, rfl⟩ := quotient?_eq_ok_iff.1 h
  have hfinite := (rounds_quotient (n := n) hzero).isFinite_iff.2 hlimit
  rw [quotient, round] at hfinite ⊢
  split at hfinite
  · next hlt =>
      rw [dif_pos hlt]
      intro hsign
      have hn : n < 0 := by
        by_contra hn
        simp [hn, hd.not_gt] at hsign
      have hquotient : n.natAbs * grainsPerUnit / d.natAbs ≠ 0 := by
        have hpos : 0 < n.natAbs := by omega
        have hone : d.natAbs ≤ n.natAbs * grainsPerUnit :=
          (show d.natAbs ≤ grainsPerUnit by omega).trans (Nat.le_mul_of_pos_left _ hpos)
        exact (Nat.div_pos hone (by omega)).ne'
      exact ((Nat.two_pow_pos _).trans_le (pow_le_nearest hquotient)).ne'
  · exact absurd hfinite (not_isFinite_infinite _)

/-- A figure that is shown has one spelling. -/
theorem plain_of_roundDamage? {x y : Binary64} (h : roundDamage? x = .ok y) : y.Plain := by
  rw [roundDamage?_eq] at h
  obtain ⟨floor, -, h⟩ := bind_eq_ok_iff.1 h
  exact plain_of_quotient? (by decide) (by decide +kernel) h

end ExpectedDamage.Binary64
