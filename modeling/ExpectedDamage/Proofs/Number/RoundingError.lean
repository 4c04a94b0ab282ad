import ExpectedDamage.Number.Figure
import Mathlib.Algebra.Order.Field.Rat
import Mathlib.Tactic.FieldSimp
import Mathlib.Tactic.Linarith
import Mathlib.Tactic.Positivity
import Mathlib.Tactic.Ring
/-!
# The error of one rounding

The value of a finite binary64 number is an exact rational number. An operation whose
result is finite had finite operands, and its result is the exact one up to one rounding:
`Rounds x q` says that `x` is `q` rounded once, and `Rounded q v` what this leaves of the
value: `v` differs from `q` by at most `2 ^ (-53)` of it and half a grain, and does not
change its sign. Nothing is said about results that are not finite.
-/

namespace ExpectedDamage.Binary64

/-- The value of a finite number. -/
def value (x : Binary64) : Rat := x.toRat?.getD 0

def IsFinite (x : Binary64) : Prop := x.toRat?.isSome = true

instance (x : Binary64) : Decidable x.IsFinite := inferInstanceAs (Decidable (_ = true))

theorem not_isFinite_infinite (negative : Bool) : ¬ (infinite negative).IsFinite := nofun

theorem not_isFinite_notANumber : ¬ notANumber.IsFinite := nofun

/-- The value of one grain. -/
def grain : Rat := 1 / grainsPerUnit

theorem grainsPerUnit_pos : 0 < grainsPerUnit := by
  unfold grainsPerUnit
  generalize 1074 = k
  exact Nat.two_pow_pos k

theorem grain_pos : 0 < grain := by
  have hpos : (0 : Rat) < grainsPerUnit := by exact_mod_cast grainsPerUnit_pos
  exact one_div_pos.2 hpos

/-- One with a sign. -/
def signOf (negative : Bool) : Rat := if negative then -1 else 1

theorem abs_signOf (s : Bool) : |signOf s| = 1 := by
  cases s <;> simp [signOf]

theorem signedGrains_eq (s : Bool) (g : Nat) : (signedGrains s g : Rat) = signOf s * g := by
  cases s <;> simp [signedGrains, signOf]

theorem value_finite (s : Bool) (g : Nat) (h : Representable g) :
    (finite s g h).value = signOf s * g * grain := by
  rw [value, toRat?, Option.getD_some, Rat.mkRat_eq_div, signedGrains_eq, grain, mul_one_div]

/-! The rounding of a count. -/

/-- Rounding to a whole number is off by at most one half. -/
theorem divRoundEven_mul_sub_le (n : Nat) {d : Nat} (h : 0 < d) :
    2 * (divRoundEven n d * d - n : Int) ≤ d ∧ 2 * (n - divRoundEven n d * d : Int) ≤ d := by
  have hdiv := Nat.div_add_mod n d
  have hmod := Nat.mod_lt n h
  unfold divRoundEven
  generalize n / d = q at *
  generalize n % d = r at *
  have hn : (n : Int) = q * d + r := by
    rw [← hdiv]
    push_cast
    ring
  rcases Nat.mod_two_eq_zero_or_one q with heven | hodd
  · simp only [heven, Nat.add_zero, hn]
    split
    · omega
    · split
      · push_cast
        rw [add_mul]
        omega
      · omega
  · rw [hodd, hn]
    split
    · omega
    · split
      · push_cast
        rw [add_mul]
        omega
      · push_cast
        rw [add_mul]
        omega

/-- The spacing is one grain or at most the share `2 ^ (-52)` of the count. -/
theorem spacing_mul_le (g : Nat) : spacing g * 2 ^ 52 ≤ g + 2 ^ 52 := by
  rw [spacing, Nat.pow_eq]
  by_cases h : g.log2 < 52
  · rw [Nat.sub_eq_zero_of_le (by omega)]
    omega
  · have hg : g ≠ 0 := by
      rintro rfl
      exact h (by decide)
    have hlog : 2 ^ g.log2 ≤ g := Nat.log2_self_le hg
    rw [← Nat.pow_add, Nat.sub_add_cancel (by omega)]
    omega

/-- The nearest count is off by at most the share `2 ^ (-53)` and half a grain. -/
theorem abs_nearest_sub_le (n : Nat) {d : Nat} (h : 0 < d) :
    |(nearest n d : Rat) - n / d| ≤ n / d / 2 ^ 53 + 1 / 2 := by
  have hspacing := spacing_pos (n / d)
  have hhalf := divRoundEven_mul_sub_le n (Nat.mul_pos h hspacing)
  have hfloor : d * (n / d) ≤ n := Nat.mul_div_le n d
  have hsize : d * spacing (n / d) * 2 ^ 52 ≤ n + d * 2 ^ 52 := by
    calc d * spacing (n / d) * 2 ^ 52 = d * (spacing (n / d) * 2 ^ 52) := Nat.mul_assoc ..
      _ ≤ d * (n / d + 2 ^ 52) := Nat.mul_le_mul_left d (spacing_mul_le _)
      _ ≤ n + d * 2 ^ 52 := by rw [Nat.mul_add]; omega
  have hcount : divRoundEven n (d * spacing (n / d)) * (d * spacing (n / d)) =
      nearest n d * d := by
    rw [nearest, Nat.mul_assoc, Nat.mul_comm d]
  have hd : (0 : Rat) < d := by exact_mod_cast h
  have hq : (n / d : Rat) * d = n := div_mul_cancel₀ _ hd.ne'
  have hcount : (divRoundEven n (d * spacing (n / d)) : Rat) * (d * spacing (n / d)) =
      nearest n d * d := by exact_mod_cast hcount
  -- The bounds are proved `d` times as large, where they are bounds of whole numbers.
  have habove : (2 * (nearest n d - n / d) : Rat) * d ≤ spacing (n / d) * d := by
    calc (2 * (nearest n d - n / d) : Rat) * d = 2 * (nearest n d * d - n) := by
          rw [mul_assoc, sub_mul, hq]
      _ ≤ spacing (n / d) * d := by
          rw [← hcount, mul_comm (spacing _ : Rat)]
          exact_mod_cast hhalf.1
  have hbelow : (2 * (n / d - nearest n d) : Rat) * d ≤ spacing (n / d) * d := by
    calc (2 * (n / d - nearest n d) : Rat) * d = 2 * (n - nearest n d * d) := by
          rw [mul_assoc, sub_mul, hq]
      _ ≤ spacing (n / d) * d := by
          rw [← hcount, mul_comm (spacing _ : Rat)]
          exact_mod_cast hhalf.2
  have hsize : (spacing (n / d) * 2 ^ 52 : Rat) * d ≤ (n / d + 2 ^ 52) * d := by
    rw [add_mul, hq]
    calc (spacing (n / d) * 2 ^ 52 : Rat) * d = (d * spacing (n / d) * 2 ^ 52 : Nat) := by
          push_cast; ring
      _ ≤ (n + d * 2 ^ 52 : Nat) := by exact_mod_cast hsize
      _ = n + 2 ^ 52 * d := by push_cast; ring
  have habove := le_of_mul_le_mul_right habove hd
  have hbelow := le_of_mul_le_mul_right hbelow hd
  have hsize := le_of_mul_le_mul_right hsize hd
  rw [abs_le]
  constructor
  · linarith
  · linarith

/-! The rounding of a value. -/

/-- The value is the rational number up to one rounding. -/
structure Rounded (q v : Rat) : Prop where
  abs_sub_le : |v - q| ≤ |q| / 2 ^ 53 + grain / 2
  nonneg : 0 ≤ q → 0 ≤ v

theorem Rounded.refl (q : Rat) : Rounded q q where
  abs_sub_le := by
    have hgrain := grain_pos
    rw [sub_self, abs_zero]
    positivity
  nonneg h := h

theorem nearest_zero (d : Nat) : nearest 0 d = 0 := by
  simp [nearest, divRoundEven]

theorem value_round {s : Bool} {n d : Nat} (h : (round s n d).IsFinite) :
    (round s n d).value = signOf s * nearest n d * grain := by
  by_cases hlt : nearest n d < grainLimit
  · have hround : round s n d = finite s (nearest n d) ⟨hlt, spacing_dvd_nearest n d⟩ :=
      dif_pos hlt
    exact (congrArg value hround).trans (value_finite _ _ _)
  · have hround : round s n d = infinite s := dif_neg hlt
    rw [hround] at h
    exact absurd h (not_isFinite_infinite s)

theorem rounded_round {s : Bool} {n d : Nat} (hd : 0 < d) (h : (round s n d).IsFinite) :
    Rounded (signOf s * (n / d) * grain) (round s n d).value := by
  have hgrain := grain_pos
  rw [value_round h]
  constructor
  · have hquotient : |(n / d : Rat)| = n / d := abs_of_nonneg (by positivity)
    rw [← sub_mul, ← mul_sub, abs_mul, abs_mul, abs_mul, abs_mul, abs_signOf,
      abs_of_pos hgrain, one_mul, one_mul, hquotient]
    calc |(nearest n d : Rat) - n / d| * grain
        ≤ (n / d / 2 ^ 53 + 1 / 2) * grain :=
          mul_le_mul_of_nonneg_right (abs_nearest_sub_le n hd) hgrain.le
      _ = n / d * grain / 2 ^ 53 + grain / 2 := by ring
  · intro hnonneg
    cases s with
    | false =>
        rw [signOf, if_neg Bool.false_ne_true, one_mul]
        positivity
    | true =>
        have hn : n = 0 := by
          by_contra hne
          have hpos : (0 : Rat) < n / d * grain := by positivity
          rw [signOf, if_pos rfl] at hnonneg
          linarith
        simp [hn, nearest_zero]

/-! The operations. -/

attribute [local irreducible] grainsPerUnit grainLimit

theorem exists_of_isFinite {x : Binary64} (h : x.IsFinite) :
    ∃ s g hg, x = finite s g hg := by
  cases x with
  | finite s g hg => exact ⟨s, g, hg, rfl⟩
  | infinite s => exact absurd h (not_isFinite_infinite s)
  | notANumber => exact absurd h not_isFinite_notANumber

theorem isFinite_of_mul {x y : Binary64} (h : (x * y).IsFinite) : x.IsFinite ∧ y.IsFinite := by
  have h : (mul x y).IsFinite := h
  cases x with
  | finite s a ha =>
      cases y with
      | finite t b hb => exact ⟨rfl, rfl⟩
      | infinite t =>
          rw [mul] at h
          split at h
          · exact absurd h not_isFinite_notANumber
          · exact absurd h (not_isFinite_infinite _)
      | notANumber => exact absurd h not_isFinite_notANumber
  | infinite s =>
      cases y with
      | finite t b hb =>
          rw [mul] at h
          split at h
          · exact absurd h not_isFinite_notANumber
          · exact absurd h (not_isFinite_infinite _)
      | infinite t => exact absurd h (not_isFinite_infinite _)
      | notANumber => exact absurd h not_isFinite_notANumber
  | notANumber => exact absurd h not_isFinite_notANumber

theorem isFinite_of_add {x y : Binary64} (h : (x + y).IsFinite) : x.IsFinite ∧ y.IsFinite := by
  have h : (add x y).IsFinite := h
  cases x with
  | finite s a ha =>
      cases y with
      | finite t b hb => exact ⟨rfl, rfl⟩
      | infinite t => exact absurd h (not_isFinite_infinite _)
      | notANumber => exact absurd h not_isFinite_notANumber
  | infinite s =>
      cases y with
      | finite t b hb => exact absurd h (not_isFinite_infinite _)
      | infinite t =>
          rw [add] at h
          split at h
          · exact absurd h (not_isFinite_infinite _)
          · exact absurd h not_isFinite_notANumber
      | notANumber => exact absurd h not_isFinite_notANumber
  | notANumber => exact absurd h not_isFinite_notANumber

theorem signOf_bne (s t : Bool) : signOf (s != t) = signOf s * signOf t := by
  cases s <;> cases t <;> simp [signOf]

/-- The number is the rational one, rounded once. -/
def Rounds (x : Binary64) (q : Rat) : Prop :=
  ∃ (s : Bool) (n d : Nat), 0 < d ∧ signOf s * (n / d) * grain = q ∧ round s n d = x

theorem Rounds.rounded {x : Binary64} {q : Rat} (h : Rounds x q) (hx : x.IsFinite) :
    Rounded q x.value := by
  obtain ⟨s, n, d, hd, rfl, rfl⟩ := h
  exact rounded_round hd hx

theorem rounds_mul {x y : Binary64} (hx : x.IsFinite) (hy : y.IsFinite) :
    Rounds (x * y) (x.value * y.value) := by
  obtain ⟨s, a, ha, rfl⟩ := exists_of_isFinite hx
  obtain ⟨t, b, hb, rfl⟩ := exists_of_isFinite hy
  refine ⟨s != t, a * b, grainsPerUnit, grainsPerUnit_pos, ?_, rfl⟩
  rw [value_finite, value_finite, signOf_bne, grain]
  push_cast
  ring

theorem rounded_mul {x y : Binary64} (h : (x * y).IsFinite) :
    Rounded (x.value * y.value) (x * y).value := by
  obtain ⟨hx, hy⟩ := isFinite_of_mul h
  exact (rounds_mul hx hy).rounded h

theorem signOf_mul_natAbs (n : Int) : signOf (n < 0) * n.natAbs = n := by
  rw [Nat.cast_natAbs, Int.cast_abs]
  by_cases h : n < 0
  · have hneg : (n : Rat) < 0 := by exact_mod_cast h
    simp [signOf, h, abs_of_neg hneg]
  · have hnonneg : (0 : Rat) ≤ n := by exact_mod_cast Int.not_lt.1 h
    simp [signOf, h, abs_of_nonneg hnonneg]

theorem round_zero (s : Bool) (d : Nat) : round s 0 d = zero s := by
  simp [round, zero, nearest_zero, grainLimit_pos]

theorem rounds_roundSigned (n : Int) (s : Bool) : Rounds (roundSigned n s) (n * grain) := by
  rw [roundSigned]
  by_cases hn : n = 0
  · exact ⟨s, 0, 1, Nat.one_pos, by simp [hn], by rw [if_pos hn, round_zero]⟩
  · refine ⟨n < 0, n.natAbs, 1, Nat.one_pos, ?_, by rw [if_neg hn]⟩
    rw [Nat.cast_one, div_one, signOf_mul_natAbs]

theorem rounds_add {x y : Binary64} (hx : x.IsFinite) (hy : y.IsFinite) :
    Rounds (x + y) (x.value + y.value) := by
  obtain ⟨s, a, ha, rfl⟩ := exists_of_isFinite hx
  obtain ⟨t, b, hb, rfl⟩ := exists_of_isFinite hy
  have hexact : (finite s a ha).value + (finite t b hb).value =
      (signedGrains s a + signedGrains t b : Int) * grain := by
    rw [value_finite, value_finite, Int.cast_add, signedGrains_eq, signedGrains_eq]
    ring
  rw [hexact]
  exact rounds_roundSigned _ _

theorem rounded_add {x y : Binary64} (h : (x + y).IsFinite) :
    Rounded (x.value + y.value) (x + y).value := by
  obtain ⟨hx, hy⟩ := isFinite_of_add h
  exact (rounds_add hx hy).rounded h

theorem inv_signOf (s : Bool) : (signOf s)⁻¹ = signOf s := by
  cases s <;> norm_num [signOf]

theorem rounds_quotient {n d : Int} (hd : d ≠ 0) : Rounds (quotient n d) (n / d) := by
  refine ⟨(n < 0) != (d < 0), n.natAbs * grainsPerUnit, d.natAbs, by omega, ?_, rfl⟩
  have hgrains : (grainsPerUnit : Rat) ≠ 0 := by exact_mod_cast grainsPerUnit_pos.ne'
  have hinv := inv_signOf (d < 0)
  conv_rhs => rw [← signOf_mul_natAbs n, ← signOf_mul_natAbs d, div_eq_mul_inv, mul_inv, hinv]
  rw [signOf_bne, grain]
  push_cast
  field_simp

theorem rounded_quotient {n d : Int} (hd : d ≠ 0) (h : (quotient n d).IsFinite) :
    Rounded (n / d) (quotient n d).value :=
  (rounds_quotient hd).rounded h

/-- A quotient by a number that is not zero. -/
theorem rounds_div {x y : Binary64} (hx : x.IsFinite) (hy : y.IsFinite) (hzero : y.value ≠ 0) :
    Rounds (x / y) (x.value / y.value) := by
  obtain ⟨s, a, ha, rfl⟩ := exists_of_isFinite hx
  obtain ⟨t, b, hb, rfl⟩ := exists_of_isFinite hy
  have hb0 : b ≠ 0 := by
    rintro rfl
    exact hzero (by rw [value_finite, Nat.cast_zero, mul_zero, zero_mul])
  refine ⟨s != t, a * grainsPerUnit, b, Nat.pos_of_ne_zero hb0, ?_, (if_neg hb0).symm⟩
  have hgrains : (grainsPerUnit : Rat) ≠ 0 := by exact_mod_cast grainsPerUnit_pos.ne'
  have hinv := inv_signOf t
  rw [value_finite, value_finite, signOf_bne, div_eq_mul_inv, div_eq_mul_inv, mul_inv, mul_inv,
    hinv, grain]
  push_cast
  field_simp

theorem less_iff {x y : Binary64} (hx : x.IsFinite) (hy : y.IsFinite) :
    x < y ↔ x.value < y.value := by
  obtain ⟨s, a, ha, rfl⟩ := exists_of_isFinite hx
  obtain ⟨t, b, hb, rfl⟩ := exists_of_isFinite hy
  have hless : finite s a ha < finite t b hb ↔ signedGrains s a < signedGrains t b :=
    decide_eq_true_iff
  rw [hless, value_finite, value_finite, ← signedGrains_eq, ← signedGrains_eq,
    mul_lt_mul_iff_left₀ grain_pos, Int.cast_lt]

theorem atMost_iff {x y : Binary64} (hx : x.IsFinite) (hy : y.IsFinite) :
    x ≤ y ↔ x.value ≤ y.value := by
  obtain ⟨s, a, ha, rfl⟩ := exists_of_isFinite hx
  obtain ⟨t, b, hb, rfl⟩ := exists_of_isFinite hy
  have hatMost : finite s a ha ≤ finite t b hb ↔ signedGrains s a ≤ signedGrains t b :=
    decide_eq_true_iff
  rw [hatMost, value_finite, value_finite, ← signedGrains_eq, ← signedGrains_eq,
    mul_le_mul_iff_left₀ grain_pos, Int.cast_le]

/-! Errors that add up. -/

theorem grain_le : grain ≤ 1 / 2 ^ 52 := by
  have hpow : 2 ^ 52 ≤ grainsPerUnit := by
    have hle : ∀ k, 52 ≤ k → 2 ^ 52 ≤ Nat.pow 2 k := fun k hk =>
      Nat.pow_le_pow_right (by decide) hk
    unfold grainsPerUnit
    exact hle 1074 (by decide)
  have hpow : (2 ^ 52 : Rat) ≤ grainsPerUnit := by exact_mod_cast hpow
  exact one_div_le_one_div_of_le (by positivity) hpow

/-- One rounding is off by at most `2 ^ (-53)` of what bounds the exact result and one. -/
theorem Rounded.abs_sub_le_of_abs_le {q v bound : Rat} (h : Rounded q v) (hq : |q| ≤ bound) :
    |v - q| ≤ (bound + 1) / 2 ^ 53 := by
  have herror := h.abs_sub_le
  have hgrain := grain_le
  linarith

/-- The number is finite and off by at most `error`. -/
structure Near (x : Binary64) (q error : Rat) : Prop where
  isFinite : x.IsFinite
  error_le : |x.value - q| ≤ error

namespace Near

variable {x y : Binary64} {q r α β M N : Rat}

theorem refl (h : x.IsFinite) : Near x x.value 0 := ⟨h, by rw [sub_self, abs_zero]⟩

theorem mono (h : Near x q α) (hle : α ≤ β) : Near x q β := ⟨h.isFinite, h.error_le.trans hle⟩

theorem abs_value_le (h : Near x q α) (hq : |q| ≤ M) : |x.value| ≤ M + α := by
  calc |x.value| = |q + (x.value - q)| := by rw [add_sub_cancel]
    _ ≤ |q| + |x.value - q| := abs_add_le _ _
    _ ≤ M + α := add_le_add hq h.error_le

theorem add (hx : Near x q α) (hy : Near y r β) (hq : |q| ≤ M) (hr : |r| ≤ N)
    (h : (x + y).IsFinite) :
    Near (x + y) (q + r) (α + β + (M + α + (N + β) + 1) / 2 ^ 53) := by
  have hsize : |x.value + y.value| ≤ M + α + (N + β) :=
    (abs_add_le _ _).trans (add_le_add (hx.abs_value_le hq) (hy.abs_value_le hr))
  have hround := (rounded_add h).abs_sub_le_of_abs_le hsize
  have hexact : |x.value + y.value - (q + r)| ≤ α + β := by
    rw [add_sub_add_comm]
    exact (abs_add_le _ _).trans (add_le_add hx.error_le hy.error_le)
  refine ⟨h, (abs_sub_le _ (x.value + y.value) _).trans ?_⟩
  linarith

theorem mul (hx : Near x q α) (hy : Near y r β) (hq : |q| ≤ M) (hr : |r| ≤ N)
    (h : (x * y).IsFinite) :
    Near (x * y) (q * r) (M * β + α * (N + β) + ((M + α) * (N + β) + 1) / 2 ^ 53) := by
  have hM : 0 ≤ M := (abs_nonneg q).trans hq
  have hα : 0 ≤ α := (abs_nonneg _).trans hx.error_le
  have hsize : |x.value * y.value| ≤ (M + α) * (N + β) := by
    rw [abs_mul]
    exact mul_le_mul (hx.abs_value_le hq) (hy.abs_value_le hr) (abs_nonneg _) (by positivity)
  have hround := (rounded_mul h).abs_sub_le_of_abs_le hsize
  have hexact : |x.value * y.value - q * r| ≤ M * β + α * (N + β) := by
    calc |x.value * y.value - q * r| = |q * (y.value - r) + (x.value - q) * y.value| := by
          ring_nf
      _ ≤ |q| * |y.value - r| + |x.value - q| * |y.value| := by
          rw [← abs_mul, ← abs_mul]
          exact abs_add_le _ _
      _ ≤ M * β + α * (N + β) :=
          add_le_add (mul_le_mul hq hy.error_le (abs_nonneg _) hM)
            (mul_le_mul hx.error_le (hy.abs_value_le hr) (abs_nonneg _) hα)
  refine ⟨h, (abs_sub_le _ (x.value * y.value) _).trans ?_⟩
  linarith

end Near

end ExpectedDamage.Binary64
