import ExpectedDamage.Proofs.Number.Success
import Mathlib.Data.Rat.Floor
/-!
# The range of binary64 numbers

Rounding respects the order of the counts (`nearest_mono`), so a number that is rounded
never passes one that needs no rounding. It leaves the finite numbers exactly from
`roundLimit` on, the middle between the largest of them and the next power of two: a tie,
which goes to the power of two. An operation on finite numbers is therefore finite exactly
if its exact result is smaller than `limit`, which is `2 ^ 1024 - 2 ^ 970`.
-/

namespace ExpectedDamage

namespace Binary64

/-! The order of rounded counts. -/

theorem le_divRoundEven (n d : Nat) : n / d ≤ divRoundEven n d := by
  unfold divRoundEven
  split
  · exact Nat.le_refl _
  · split
    · exact Nat.le_succ _
    · exact Nat.le_add_right _ _

theorem floor_mono {n d m e : Nat} (hd : 0 < d) (he : 0 < e) (h : n * e ≤ m * d) :
    n / d ≤ m / e := by
  rw [Nat.le_div_iff_mul_le he]
  refine Nat.le_of_mul_le_mul_right ?_ hd
  calc n / d * e * d = n / d * d * e := Nat.mul_right_comm ..
    _ ≤ n * e := Nat.mul_le_mul_right e (Nat.div_mul_le_self n d)
    _ ≤ m * d := h

theorem divRoundEven_mono {n d m e : Nat} (hd : 0 < d) (he : 0 < e) (h : n * e ≤ m * d) :
    divRoundEven n d ≤ divRoundEven m e := by
  have hn := Nat.div_add_mod n d
  have hm := Nat.div_add_mod m e
  have hfloor := floor_mono hd he h
  rcases Nat.lt_or_eq_of_le hfloor with hlt | heq
  · calc divRoundEven n d ≤ n / d + 1 := divRoundEven_le n d
      _ ≤ m / e := hlt
      _ ≤ divRoundEven m e := le_divRoundEven m e
  · -- Counts with one floor are ordered like the remainders.
    have hrest : n % d * e ≤ m % e * d := by
      have h : (d * (n / d) + n % d) * e ≤ (e * (m / e) + m % e) * d := by rwa [hn, hm]
      rw [Nat.add_mul, Nat.add_mul, ← heq] at h
      have hcomm : d * (n / d) * e = e * (n / d) * d := by ring
      omega
    have hbelow : d < 2 * (n % d) → e < 2 * (m % e) := by
      intro hhalf
      have hhalf : d * e < 2 * (n % d) * e := Nat.mul_lt_mul_of_pos_right hhalf he
      refine Nat.lt_of_mul_lt_mul_right (a := d) ?_
      calc e * d = d * e := Nat.mul_comm ..
        _ < 2 * (n % d * e) := by rwa [← Nat.mul_assoc]
        _ ≤ 2 * (m % e * d) := Nat.mul_le_mul_left 2 hrest
        _ = 2 * (m % e) * d := (Nat.mul_assoc ..).symm
    have habove : 2 * (m % e) < e → 2 * (n % d) < d := by
      intro hhalf
      have hhalf : 2 * (m % e) * d < e * d := Nat.mul_lt_mul_of_pos_right hhalf hd
      refine Nat.lt_of_mul_lt_mul_right (a := e) ?_
      calc 2 * (n % d) * e = 2 * (n % d * e) := Nat.mul_assoc ..
        _ ≤ 2 * (m % e * d) := Nat.mul_le_mul_left 2 hrest
        _ = 2 * (m % e) * d := (Nat.mul_assoc ..).symm
        _ < e * d := hhalf
        _ = d * e := Nat.mul_comm ..
    unfold divRoundEven
    rw [← heq]
    generalize n % d = r at hbelow habove
    generalize m % e = t at hbelow habove
    split_ifs <;> omega

/-- A count in units of its spacing. -/
theorem div_mul_spacing (n d : Nat) :
    n / (d * spacing (n / d)) = n / d / spacing (n / d) := (Nat.div_div_eq_div_mul ..).symm

theorem nearest_le_pow (n d : Nat) : nearest n d ≤ 2 ^ ((n / d).log2 + 1) := by
  have hsteps := divRoundEven_le n (d * spacing (n / d))
  have hlog : n / d < 2 ^ ((n / d).log2 + 1) := Nat.lt_log2_self
  have hpow : 2 ^ ((n / d).log2 + 1) =
      2 ^ ((n / d).log2 + 1 - ((n / d).log2 - 52)) * spacing (n / d) := by
    rw [spacing, Nat.pow_eq, ← Nat.pow_add]
    congr 1
    omega
  rw [div_mul_spacing] at hsteps
  rw [hpow] at hlog ⊢
  rw [nearest]
  exact Nat.mul_le_mul_right _ (hsteps.trans (Nat.div_lt_of_lt_mul (by rwa [Nat.mul_comm])))

theorem pow_le_nearest {n d : Nat} (h : n / d ≠ 0) : 2 ^ (n / d).log2 ≤ nearest n d := by
  have hsteps := le_divRoundEven n (d * spacing (n / d))
  have hlog : 2 ^ (n / d).log2 ≤ n / d := Nat.log2_self_le h
  have hpow : 2 ^ (n / d).log2 =
      2 ^ ((n / d).log2 - ((n / d).log2 - 52)) * spacing (n / d) := by
    rw [spacing, Nat.pow_eq, ← Nat.pow_add]
    congr 1
    omega
  rw [div_mul_spacing] at hsteps
  rw [hpow] at hlog ⊢
  rw [nearest]
  exact Nat.mul_le_mul_right _ (((Nat.le_div_iff_mul_le (spacing_pos _)).2 hlog).trans hsteps)

/-- Rounding respects the order of quotients. -/
theorem nearest_mono {n d m e : Nat} (hd : 0 < d) (he : 0 < e) (h : n * e ≤ m * d) :
    nearest n d ≤ nearest m e := by
  have hfloor := floor_mono hd he h
  by_cases hlog : (n / d).log2 = (m / e).log2
  · have hspacing : spacing (n / d) = spacing (m / e) := by rw [spacing, hlog, spacing]
    have hpos := spacing_pos (m / e)
    rw [nearest, nearest, hspacing]
    refine Nat.mul_le_mul_right _ (divRoundEven_mono (Nat.mul_pos hd hpos) (Nat.mul_pos he hpos) ?_)
    rw [← Nat.mul_assoc, ← Nat.mul_assoc]
    exact Nat.mul_le_mul_right _ h
  · -- The power of two between counts of different sizes is between their roundings.
    have hne : m / e ≠ 0 := by
      intro hzero
      rw [hzero] at hfloor hlog
      rw [Nat.le_zero.1 hfloor] at hlog
      exact hlog rfl
    have hlt : (n / d).log2 < (m / e).log2 := by
      rcases Nat.eq_zero_or_pos (n / d) with hzero | hpos
      · rw [hzero] at hlog ⊢
        exact Nat.pos_of_ne_zero (Ne.symm hlog)
      · have hle : (n / d).log2 ≤ (m / e).log2 :=
          (Nat.le_log2 hne).2 ((Nat.log2_self_le hpos.ne').trans hfloor)
        exact Nat.lt_of_le_of_ne hle hlog
    calc nearest n d ≤ 2 ^ ((n / d).log2 + 1) := nearest_le_pow n d
      _ ≤ 2 ^ (m / e).log2 := Nat.pow_le_pow_right (by decide) hlt
      _ ≤ nearest m e := pow_le_nearest hne

/-! The overflow. -/

/-- Rounding to a whole number goes below an even one exactly below the middle between it
and its predecessor. -/
theorem divRoundEven_lt_iff {n d k : Nat} (hd : 0 < d) (hk : k % 2 = 0) (hpos : 0 < k) :
    divRoundEven n d < k ↔ 2 * n < (2 * k - 1) * d := by
  have hdiv := Nat.div_add_mod n d
  have hmod := Nat.mod_lt n hd
  obtain ⟨j, rfl⟩ : ∃ j, k = j + 1 := ⟨k - 1, by omega⟩
  have hmiddle : (2 * (j + 1) - 1) * d = 2 * (d * j) + d := by
    rw [show 2 * (j + 1) - 1 = 2 * j + 1 by omega]
    ring
  rw [hmiddle]
  rcases Nat.lt_trichotomy (n / d) j with hlt | heq | hgt
  · have hbelow : d * (n / d) + d ≤ d * j := by
      rw [← Nat.mul_succ]
      exact Nat.mul_le_mul_left d hlt
    have hround := divRoundEven_le n d
    omega
  · rw [divRoundEven, heq]
    rw [heq] at hdiv
    split_ifs <;> omega
  · have habove : d * j + d ≤ d * (n / d) := by
      rw [← Nat.mul_succ]
      exact Nat.mul_le_mul_left d hgt
    have hround := le_divRoundEven n d
    omega

theorem nearest_lt_pow_iff {n d : Nat} (hd : 0 < d) (k : Nat) :
    nearest n d < 2 ^ (k + 54) ↔ n < d * ((2 ^ 54 - 1) * 2 ^ k) := by
  have hfloor : d * (n / d) ≤ n := Nat.mul_div_le n d
  have hceil : n < d * (n / d + 1) := Nat.lt_mul_div_succ n hd
  rcases Nat.lt_trichotomy (n / d).log2 (k + 53) with hlt | heq | hgt
  · refine iff_of_true ?_ (hceil.trans_le (Nat.mul_le_mul_left d ?_))
    · exact (nearest_le_pow n d).trans_lt (Nat.pow_lt_pow_right (by decide) (by omega))
    · calc n / d + 1 ≤ 2 ^ ((n / d).log2 + 1) := Nat.lt_log2_self
        _ ≤ 2 ^ (53 + k) := Nat.pow_le_pow_right (by decide) (by omega)
        _ = 2 ^ 53 * 2 ^ k := Nat.pow_add ..
        _ ≤ (2 ^ 54 - 1) * 2 ^ k := Nat.mul_le_mul_right _ (by decide)
  · have hspacing : spacing (n / d) = 2 ^ (k + 1) := by
      rw [spacing, heq]
      rfl
    have hpow : 2 ^ (k + 54) = 2 ^ 53 * 2 ^ (k + 1) := by
      rw [← Nat.pow_add]
      congr 1
      omega
    rw [nearest, hspacing, hpow, Nat.mul_lt_mul_right (Nat.two_pow_pos _),
      divRoundEven_lt_iff (Nat.mul_pos hd (Nat.two_pow_pos _)) (by decide) (by decide)]
    have hmiddle : (2 * 2 ^ 53 - 1) * (d * 2 ^ (k + 1)) = 2 * (d * ((2 ^ 54 - 1) * 2 ^ k)) := by
      rw [Nat.pow_succ]
      ring
    rw [hmiddle]
    exact Nat.mul_lt_mul_left Nat.two_pos
  · have hne : n / d ≠ 0 := by
      intro hzero
      rw [hzero, Nat.log2_zero] at hgt
      exact Nat.not_lt_zero _ hgt
    have hlog : 2 ^ (k + 54) ≤ 2 ^ (n / d).log2 := Nat.pow_le_pow_right (by decide) hgt
    refine iff_of_false (Nat.not_lt.2 (hlog.trans (pow_le_nearest hne))) (Nat.not_lt.2 ?_)
    calc d * ((2 ^ 54 - 1) * 2 ^ k) ≤ d * 2 ^ (k + 54) := by
          rw [Nat.add_comm, Nat.pow_add]
          exact Nat.mul_le_mul_left d (Nat.mul_le_mul_right _ (Nat.sub_le _ _))
      _ ≤ d * (n / d) := Nat.mul_le_mul_left d (hlog.trans (Nat.log2_self_le hne))
      _ ≤ n := hfloor

/-- Counts of 53 bits stay away from the middle above them. -/
theorem add_pow_le_of_spacing_dvd {g k : Nat} (hlt : g < 2 ^ (k + 54)) (hdvd : spacing g ∣ g) :
    g + 2 ^ k ≤ (2 ^ 54 - 1) * 2 ^ k := by
  by_cases hsmall : g < 2 ^ (k + 53)
  · calc g + 2 ^ k ≤ 2 ^ (53 + k) + 2 ^ k := by
          rw [Nat.add_comm 53]
          exact Nat.add_le_add_right hsmall.le _
      _ = (2 ^ 53 + 1) * 2 ^ k := by rw [Nat.pow_add, Nat.add_mul, Nat.one_mul]
      _ ≤ (2 ^ 54 - 1) * 2 ^ k := Nat.mul_le_mul_right _ (by decide)
  · have hlow : 2 ^ (k + 53) ≤ g := Nat.le_of_not_lt hsmall
    have hne : g ≠ 0 := ((Nat.two_pow_pos _).trans_le hlow).ne'
    have hspacing : spacing g = 2 ^ (k + 1) := by
      rw [spacing, (Nat.log2_eq_iff hne).2 ⟨hlow, hlt⟩]
      rfl
    rw [hspacing] at hdvd
    obtain ⟨m, rfl⟩ := hdvd
    have hpow : 2 ^ (k + 54) = 2 ^ (k + 1) * 2 ^ 53 := by
      rw [← Nat.pow_add, Nat.add_right_comm]
    rw [hpow] at hlt
    have hm : m + 1 ≤ 2 ^ 53 := Nat.lt_of_mul_lt_mul_left hlt
    have hroom : 2 ^ (k + 1) * (m + 1) ≤ 2 ^ (k + 1) * 2 ^ 53 := Nat.mul_le_mul_left _ hm
    rw [Nat.pow_succ] at hroom ⊢
    generalize 2 ^ k = p at hroom ⊢
    rw [Nat.mul_succ] at hroom
    omega

/-- Counts of 53 bits are representable, whatever power of two follows. -/
theorem representable_mul_pow {m k : Nat} (hm : m ≤ significandLimit) (hk : k < 2045) :
    Representable (m * Nat.pow 2 k) := by
  refine ⟨?_, spacing_dvd_of_le hm⟩
  have hlt : ∀ l, 53 + k < l → m * Nat.pow 2 k < Nat.pow 2 l := by
    intro l hl
    calc m * Nat.pow 2 k ≤ 2 ^ 53 * 2 ^ k := Nat.mul_le_mul_right _ hm
      _ = 2 ^ (53 + k) := (Nat.pow_add ..).symm
      _ < 2 ^ l := Nat.pow_lt_pow_right (by decide) hl
  unfold grainLimit
  apply hlt
  omega

/-- The least count of grains that is rounded to an infinity. -/
def roundLimit : Nat := (2 ^ 54 - 1) * Nat.pow 2 2044

theorem nearest_lt_grainLimit_iff {n d : Nat} (hd : 0 < d) :
    nearest n d < grainLimit ↔ n < d * roundLimit := by
  have hlimit : ∀ k l, l = k + 54 →
      (nearest n d < Nat.pow 2 l ↔ n < d * ((2 ^ 54 - 1) * Nat.pow 2 k)) := by
    rintro k l rfl
    exact nearest_lt_pow_iff hd k
  unfold grainLimit roundLimit
  exact hlimit 2044 2098 rfl

attribute [local irreducible] grainsPerUnit grainLimit roundLimit

/-- The least number that is rounded to an infinity. -/
def limit : Rat := roundLimit * grain

/-- A multiple of the spacing is a count that stays as it is. -/
theorem nearest_mul_self {g d : Nat} (hd : 0 < d) (h : spacing g ∣ g) :
    nearest (g * d) d = g := by
  obtain ⟨m, hm⟩ := h
  have hspacing := spacing_pos g
  have hmod : g * d % (d * spacing g) = 0 := by
    refine Nat.mod_eq_zero_of_dvd ⟨m, ?_⟩
    rw [Nat.mul_assoc, ← hm, Nat.mul_comm]
  have hdiv : g * d / (d * spacing g) = m := by
    rw [Nat.mul_comm g, Nat.mul_div_mul_left _ _ hd]
    exact Nat.div_eq_of_eq_mul_right hspacing hm
  rw [nearest, Nat.mul_div_cancel _ hd, divRoundEven, hmod, hdiv,
    if_pos (by simpa using Nat.mul_pos hd hspacing), Nat.mul_comm, ← hm]

theorem abs_signOf_mul (s : Bool) {q : Rat} (hq : 0 ≤ q) : |signOf s * q * grain| = q * grain := by
  rw [abs_mul, abs_mul, abs_signOf, one_mul, abs_of_nonneg hq, abs_of_pos grain_pos]

theorem exists_abs_value {x : Binary64} (hx : x.IsFinite) :
    ∃ g : Nat, spacing g ∣ g ∧ |x.value| = g * grain := by
  obtain ⟨s, g, hg, rfl⟩ := exists_of_isFinite hx
  exact ⟨g, hg.2, by rw [value_finite, abs_signOf_mul s (by positivity)]⟩

namespace Rounds

variable {x z : Binary64} {q : Rat}

/-- A rounded number is finite exactly below the limit. -/
theorem isFinite_iff (h : Rounds x q) : x.IsFinite ↔ |q| < limit := by
  obtain ⟨s, n, d, hd, rfl, rfl⟩ := h
  have hpos : (0 : Rat) < d := by exact_mod_cast hd
  have hlimit : |signOf s * (n / d) * grain| < limit ↔ n < d * roundLimit := by
    rw [abs_signOf_mul s (by positivity), limit, mul_lt_mul_iff_left₀ grain_pos,
      div_lt_iff₀ hpos, mul_comm (roundLimit : Rat)]
    exact_mod_cast Iff.rfl
  rw [hlimit, ← nearest_lt_grainLimit_iff hd, round]
  split
  · next hlt => exact iff_of_true rfl hlt
  · next hlt => exact iff_of_false (not_isFinite_infinite s) hlt

/-- A finite number needs no rounding. -/
theorem self (hx : x.IsFinite) : Rounds x x.value := by
  obtain ⟨s, g, hg, rfl⟩ := exists_of_isFinite hx
  refine ⟨s, g, 1, Nat.one_pos, by rw [value_finite, Nat.cast_one, div_one], ?_⟩
  have hnearest := nearest_mul_self Nat.one_pos hg.2
  rw [Nat.mul_one] at hnearest
  simp only [round, hnearest, hg.1, dite_true]

/-- The size of a rounded number is a rounded count. -/
theorem exists_abs (h : Rounds x q) : ∃ n d : Nat, 0 < d ∧ |q| = n / d * grain ∧
    (x.IsFinite → |x.value| = nearest n d * grain) := by
  obtain ⟨s, n, d, hd, rfl, rfl⟩ := h
  refine ⟨n, d, hd, abs_signOf_mul s (by positivity), fun hx => ?_⟩
  rw [value_round hx, abs_signOf_mul s (by positivity)]

/-- Rounding does not pass a number that needs none: neither upwards, -/
theorem abs_value_le (h : Rounds x q) (hz : z.IsFinite) (hq : |q| ≤ |z.value|) :
    x.IsFinite ∧ |x.value| ≤ |z.value| := by
  have hx : x.IsFinite := h.isFinite_iff.2 (hq.trans_lt ((self hz).isFinite_iff.1 hz))
  refine ⟨hx, ?_⟩
  obtain ⟨n, d, hd, habs, hvalue⟩ := h.exists_abs
  obtain ⟨g, hg, hgrains⟩ := exists_abs_value hz
  have hpos : (0 : Rat) < d := by exact_mod_cast hd
  rw [habs, hgrains, mul_le_mul_iff_left₀ grain_pos, div_le_iff₀ hpos] at hq
  have hcount : n ≤ g * d := by exact_mod_cast hq
  have hnearest := nearest_mono hd hd (Nat.mul_le_mul_right d hcount)
  rw [nearest_mul_self hd hg] at hnearest
  rw [hvalue hx, hgrains, mul_le_mul_iff_left₀ grain_pos]
  exact_mod_cast hnearest

/-- nor downwards. -/
theorem le_abs_value (h : Rounds x q) (hx : x.IsFinite) (hz : z.IsFinite)
    (hq : |z.value| ≤ |q|) : |z.value| ≤ |x.value| := by
  obtain ⟨n, d, hd, habs, hvalue⟩ := h.exists_abs
  obtain ⟨g, hg, hgrains⟩ := exists_abs_value hz
  have hpos : (0 : Rat) < d := by exact_mod_cast hd
  rw [habs, hgrains, mul_le_mul_iff_left₀ grain_pos, le_div_iff₀ hpos] at hq
  have hcount : g * d ≤ n := by exact_mod_cast hq
  have hnearest := nearest_mono hd hd (Nat.mul_le_mul_right d hcount)
  rw [nearest_mul_self hd hg] at hnearest
  rw [hvalue hx, hgrains, mul_le_mul_iff_left₀ grain_pos]
  exact_mod_cast hnearest

/-- A number that is not negative and needs no rounding stays below what is above it. -/
theorem le_value (h : Rounds x q) (hx : x.IsFinite) (hz : z.IsFinite) (hnonneg : 0 ≤ z.value)
    (hq : z.value ≤ q) : z.value ≤ x.value := by
  have hq0 : 0 ≤ q := hnonneg.trans hq
  have hx0 : 0 ≤ x.value := (h.rounded hx).nonneg hq0
  have hle := h.le_abs_value hx hz (by rwa [abs_of_nonneg hnonneg, abs_of_nonneg hq0])
  rwa [abs_of_nonneg hnonneg, abs_of_nonneg hx0] at hle

end Rounds

theorem abs_value_lt_limit {x : Binary64} (hx : x.IsFinite) : |x.value| < limit :=
  (Rounds.self hx).isFinite_iff.1 hx

theorem limit_pos : 0 < limit :=
  (abs_nonneg _).trans_lt (abs_value_lt_limit (x := zero false) rfl)

/-- Up to the limit there is room for one more. -/
theorem abs_value_add_one_le {x : Binary64} (hx : x.IsFinite) : |x.value| + 1 ≤ limit := by
  obtain ⟨s, g, hg, rfl⟩ := exists_of_isFinite hx
  have hcount : g + grainsPerUnit ≤ roundLimit := by
    have hroom : ∀ k l m, l = k + 54 → m ≤ k → g < Nat.pow 2 l →
        g + Nat.pow 2 m ≤ (2 ^ 54 - 1) * Nat.pow 2 k := by
      rintro k l m rfl hm hlt
      exact (Nat.add_le_add_left (Nat.pow_le_pow_right Nat.two_pos hm) g).trans
        (add_pow_le_of_spacing_dvd hlt hg.2)
    have hlt := hg.1
    unfold grainLimit at hlt
    unfold grainsPerUnit roundLimit
    exact hroom 2044 2098 1074 rfl (by decide) hlt
  have hunit : (grainsPerUnit : Rat) * grain = 1 := by
    have hpos : (0 : Rat) < grainsPerUnit := by exact_mod_cast grainsPerUnit_pos
    rw [grain, mul_one_div_cancel hpos.ne']
  rw [value_finite, abs_signOf_mul s (by positivity), limit, ← hunit, ← add_mul,
    mul_le_mul_iff_left₀ grain_pos]
  exact_mod_cast hcount

/-! Calculations that may be refused. -/

theorem quotient?_eq_ok_iff {n d : Int} {x : Binary64} :
    quotient? n d = .ok x ↔ d ≠ 0 ∧ |(n / d : Rat)| < limit ∧ quotient n d = x := by
  rw [quotient?]
  split_ifs with hd hover
  · exact ⟨False.elim, fun h => absurd hd h.1⟩
  · refine ⟨False.elim, fun h => ?_⟩
    have hfinite := (rounds_quotient hd).isFinite_iff.2 h.2.1
    obtain ⟨s, g, hg, hx⟩ := exists_of_isFinite hfinite
    rw [hx] at hover
    exact absurd hover Bool.false_ne_true
  · have hfinite : (quotient n d).IsFinite := by
      cases hx : quotient n d with
      | finite s g hg => rfl
      | infinite s =>
          rw [hx] at hover
          exact absurd rfl hover
      | notANumber =>
          rw [quotient, round] at hx
          split at hx <;> cases hx
    have hlimit := (rounds_quotient hd).isFinite_iff.1 hfinite
    exact ⟨fun h => ⟨hd, hlimit, Except.ok.inj h⟩, fun h => congrArg _ h.2.2⟩

theorem ofInt?_eq_ok_iff {n : Int} {x : Binary64} :
    ofInt? n = .ok x ↔ |(n : Rat)| < limit ∧ quotient n 1 = x := by
  rw [ofInt?, quotient?_eq_ok_iff, Int.cast_one, div_one]
  exact and_iff_right Int.one_ne_zero

theorem floor?_eq_ok_iff {x : Binary64} {n : Int} :
    x.floor? = .ok n ↔ x.IsFinite ∧ ⌊x.value⌋ = n := by
  cases x with
  | finite s g hg =>
      have hfloor : ⌊(finite s g hg).value⌋ = signedGrains s g / (grainsPerUnit : Int) := by
        rw [value_finite, ← signedGrains_eq, grain, mul_one_div]
        exact Rat.floor_intCast_div_natCast _ _
      rw [hfloor]
      exact ⟨fun h => ⟨rfl, Except.ok.inj h⟩, fun h => congrArg _ h.2⟩
  | infinite s =>
      exact ⟨fun h => absurd h error_ne_ok, fun h => absurd h.1 (not_isFinite_infinite s)⟩
  | notANumber =>
      exact ⟨fun h => absurd h error_ne_ok, fun h => absurd h.1 not_isFinite_notANumber⟩

theorem abs_floor_value_le {x : Binary64} (hx : x.IsFinite) :
    |(⌊x.value⌋ : Rat)| ≤ limit := by
  have hvalue := abs_le.1 (le_sub_iff_add_le.2 (abs_value_add_one_le hx))
  have hle := Int.floor_le x.value
  have hlt := Int.lt_floor_add_one x.value
  rw [abs_le]
  constructor
  · linarith
  · linarith

theorem exists_quotient?_iff {n d : Int} (hd : d ≠ 0) :
    (∃ x : Binary64, Figure.quotient? n d = .ok x) ↔ |(n / d : Rat)| < limit :=
  ⟨fun ⟨_, hx⟩ => (quotient?_eq_ok_iff.1 hx).2.1,
    fun h => ⟨_, quotient?_eq_ok_iff.2 ⟨hd, h, rfl⟩⟩⟩

/-! Figures that are shown. -/

/-- A figure that can be shown with decimals: its hundredfold is within the range. -/
structure Showable (x : Binary64) : Prop where
  isFinite : x.IsFinite
  lt_limit : |x.value| * 100 < limit

/-- What is closer to zero than a figure that can be shown can be shown. -/
theorem Rounds.showable {x z : Binary64} {q : Rat} (h : Rounds x q) (hz : z.Showable)
    (hq : |q| ≤ |z.value|) : x.Showable := by
  obtain ⟨hx, hle⟩ := h.abs_value_le hz.isFinite hq
  exact ⟨hx, (mul_le_mul_of_nonneg_right hle (by norm_num)).trans_lt hz.lt_limit⟩

/-- A divisor that is not smaller than one leaves a figure as it can be shown. -/
theorem Showable.div {x y : Binary64} (hx : x.Showable) (hy : y.IsFinite) (hone : 1 ≤ y.value) :
    (x / y).Showable := by
  have hpos : 0 < y.value := zero_lt_one.trans_le hone
  refine (rounds_div hx.isFinite hy hpos.ne').showable hx ?_
  rw [abs_div, abs_of_pos hpos]
  exact div_le_self (abs_nonneg _) hone

/-- The quotient of a whole number by one that is not larger is not rounded below one. -/
theorem one_le_quotient {n d : Int} (hd : 0 < d) (h : d ≤ n) (hfinite : (quotient n d).IsFinite) :
    1 ≤ (quotient n d).value := by
  have hvalue : (1 : Binary64).value = 1 := by decide +kernel
  have hquotient : (1 : Rat) ≤ n / d := by
    rw [le_div_iff₀ (by exact_mod_cast hd), one_mul]
    exact_mod_cast h
  have hle := (rounds_quotient hd.ne').le_value hfinite (z := 1) (by decide +kernel)
    (by decide +kernel) (by rwa [hvalue])
  rwa [hvalue] at hle

end Binary64

open Binary64

theorem exists_floor?_half_iff {x : Binary64} :
    (∃ n, (x + 0.5).floor? = .ok n) ↔ x.IsFinite := by
  constructor
  · rintro ⟨n, hn⟩
    exact (isFinite_of_add (floor?_eq_ok_iff.1 hn).1).1
  · intro hx
    have hhalf : (0.5 : Binary64).IsFinite := by decide +kernel
    have hvalue : (0.5 : Binary64).value = 1 / 2 := by decide +kernel
    have hsum : (x + 0.5).IsFinite := by
      rw [(rounds_add hx hhalf).isFinite_iff, hvalue]
      calc |x.value + 1 / 2| ≤ |x.value| + |1 / 2| := abs_add_le _ _
        _ < |x.value| + 1 := by norm_num
        _ ≤ limit := abs_value_add_one_le hx
    exact ⟨_, floor?_eq_ok_iff.2 ⟨hsum, rfl⟩⟩

theorem scale?_hundred (x : Binary64) :
    (Amount.real x).scale? 100 = .ok (x * quotient 100 1) := by
  have hundred : ofInt? 100 = .ok (quotient 100 1) := by decide +kernel
  rw [Amount.scale?, hundred]
  rfl

theorem isFinite_mul_hundred_iff {x : Binary64} :
    (x * quotient 100 1).IsFinite ↔ x.Showable := by
  have hundred : (quotient 100 1).IsFinite := by decide +kernel
  have hvalue : (quotient 100 1).value = 100 := by decide +kernel
  have hscaled (hx : x.IsFinite) : (x * quotient 100 1).IsFinite ↔ |x.value| * 100 < limit := by
    have habs : |(100 : Rat)| = 100 := abs_of_pos (by norm_num)
    rw [(rounds_mul hx hundred).isFinite_iff, hvalue, abs_mul, habs]
  constructor
  · intro h
    have hx := (isFinite_of_mul h).1
    exact ⟨hx, (hscaled hx).1 h⟩
  · intro h
    exact (hscaled h.isFinite).2 h.lt_limit

theorem roundDamage?_eq (x : Binary64) : roundDamage? x =
    (x * quotient 100 1 + 0.5).floor? >>= fun floor => quotient? floor 100 := by
  rw [roundDamage?, roundHalfUp?, if_pos (by decide)]
  show ((Amount.real x).scale? 100 >>= fun scaled => _) = _
  rw [scale?_hundred]
  rfl

/-- A figure is rounded for being shown exactly if it can be shown. -/
theorem exists_roundDamage?_iff {x : Binary64} :
    (∃ y, roundDamage? x = .ok y) ↔ x.Showable := by
  rw [roundDamage?_eq, ← isFinite_mul_hundred_iff, ← exists_floor?_half_iff]
  constructor
  · rintro ⟨y, hy⟩
    obtain ⟨n, hn, -⟩ := bind_eq_ok_iff.1 hy
    exact ⟨n, hn⟩
  · rintro ⟨n, hn⟩
    obtain ⟨hfinite, rfl⟩ := floor?_eq_ok_iff.1 hn
    have hfloor := abs_floor_value_le hfinite
    have hpos := limit_pos
    have hquotient : |(⌊(x * quotient 100 1 + 0.5).value⌋ / (100 : Int) : Rat)| < limit := by
      have hhundred : |((100 : Int) : Rat)| = 100 := by norm_num
      rw [abs_div, hhundred, div_lt_iff₀ (by norm_num)]
      linarith
    exact ⟨_, bind_eq_ok_iff.2 ⟨_, hn, quotient?_eq_ok_iff.2 ⟨by decide, hquotient, rfl⟩⟩⟩

theorem isFinite_of_roundDamage? {x y : Binary64} (h : roundDamage? x = .ok y) : x.IsFinite :=
  (exists_roundDamage?_iff.1 ⟨y, h⟩).isFinite

/-- A chance is shown in percent exactly if it can be shown. -/
theorem exists_percent?_iff {x : Binary64} : (∃ n, percent? (.real x) = .ok n) ↔ x.Showable := by
  rw [percent?, scale?_hundred, ← isFinite_mul_hundred_iff, ← exists_floor?_half_iff]
  rfl

end ExpectedDamage
