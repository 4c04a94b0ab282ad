import ExpectedDamage.Proofs.Number.Range
import Mathlib.Algebra.BigOperators.Group.List.Basic
import Mathlib.Algebra.Order.BigOperators.Group.List
import Mathlib.Data.List.Forall2
/-!
# Errors that accumulate

A figure that is made in many steps is rounded at each of them. `Computed x q steps size`
says that `x` is the number `q` up to `steps` roundings, where the sizes of all that it is
made of add up to `size`; it is off by at most `drift steps size`. A sum is computed in the
steps of its parts and one more for each addition (`Computed.total`).

Halves of whole numbers with at most 53 bits are not rounded at all: such a sum is exact
(`IsHalf.total`).
-/

namespace ExpectedDamage.Binary64

/-- The most that `steps` roundings move a figure that is made of sizes with the sum `size`. -/
def drift (steps : Nat) (size : Rat) : Rat := ((1 + 1 / 2 ^ 53) ^ steps - 1) * (size + steps)

/-- The number is finite, and exact up to a number of roundings. -/
structure Computed (x : Binary64) (q : Rat) (steps : Nat) (size : Rat) : Prop where
  isFinite : x.IsFinite
  abs_le_size : |q| ≤ size
  error_le : |x.value - q| ≤ drift steps size

theorem one_le_growth (steps : Nat) : (1 : Rat) ≤ (1 + 1 / 2 ^ 53) ^ steps :=
  one_le_pow₀ (by norm_num)

theorem drift_mono {k n : Nat} {s t : Rat} (hs : 0 ≤ s) (hkn : k ≤ n) (hst : s ≤ t) :
    drift k s ≤ drift n t := by
  have hgrowth : ((1 + 1 / 2 ^ 53) ^ k : Rat) ≤ (1 + 1 / 2 ^ 53) ^ n :=
    pow_le_pow_right₀ (by norm_num) hkn
  have hone := one_le_growth n
  have hkn : (k : Rat) ≤ n := by exact_mod_cast hkn
  exact mul_le_mul (by linarith) (by linarith) (by positivity) (by linarith)

theorem drift_nonneg {k : Nat} {s : Rat} (hs : 0 ≤ s) : 0 ≤ drift k s := by
  have hnone : drift 0 s = 0 := by rw [drift, pow_zero, sub_self, zero_mul]
  exact hnone.ge.trans (drift_mono hs (Nat.zero_le k) le_rfl)

namespace Computed

variable {x y : Binary64} {q r s t : Rat} {k n : Nat}

theorem size_nonneg (h : Computed x q k s) : 0 ≤ s := (abs_nonneg q).trans h.abs_le_size

theorem mono (h : Computed x q k s) (hkn : k ≤ n) (hst : s ≤ t) : Computed x q n t where
  isFinite := h.isFinite
  abs_le_size := h.abs_le_size.trans hst
  error_le := h.error_le.trans (drift_mono h.size_nonneg hkn hst)

theorem exact (hx : x.IsFinite) (hvalue : x.value = q) (hq : |q| ≤ s) : Computed x q 0 s where
  isFinite := hx
  abs_le_size := hq
  error_le := by rw [hvalue, sub_self, abs_zero, drift, pow_zero, sub_self, zero_mul]

theorem of_rounded (hx : x.IsFinite) (h : Rounded q x.value) (hq : |q| ≤ s) :
    Computed x q 1 s where
  isFinite := hx
  abs_le_size := hq
  error_le := by
    refine (h.abs_sub_le_of_abs_le hq).trans (le_of_eq ?_)
    rw [drift, pow_one, Nat.cast_one]
    ring

/-- A computed number lies within its size, as far as the roundings let it. -/
theorem abs_value_le (h : Computed x q k s) :
    |x.value| ≤ (1 + 1 / 2 ^ 53) ^ k * (s + k) := by
  have hk : (0 : Rat) ≤ k := by positivity
  calc |x.value| = |q + (x.value - q)| := by rw [add_sub_cancel]
    _ ≤ |q| + |x.value - q| := abs_add_le _ _
    _ ≤ s + drift k s := add_le_add h.abs_le_size h.error_le
    _ ≤ (1 + 1 / 2 ^ 53) ^ k * (s + k) := by
        rw [drift]
        linarith

/-- A sum is rounded once more than its parts together. -/
theorem add (hx : Computed x q k s) (hy : Computed y r n t) (h : (x + y).IsFinite) :
    Computed (x + y) (q + r) (k + n + 1) (s + t) where
  isFinite := h
  abs_le_size := (abs_add_le q r).trans (add_le_add hx.abs_le_size hy.abs_le_size)
  error_le := by
    have hparts : |x.value + y.value - (q + r)| ≤ drift k s + drift n t := by
      rw [add_sub_add_comm]
      exact (abs_add_le _ _).trans (add_le_add hx.error_le hy.error_le)
    have hsize : |x.value + y.value| ≤
        (1 + 1 / 2 ^ 53) ^ k * (s + k) + (1 + 1 / 2 ^ 53) ^ n * (t + n) :=
      (abs_add_le _ _).trans (add_le_add hx.abs_value_le hy.abs_value_le)
    have hround := (rounded_add h).abs_sub_le_of_abs_le hsize
    have htotal := (abs_sub_le (x + y).value (x.value + y.value) (q + r)).trans
      (add_le_add hround hparts)
    refine htotal.trans ?_
    have hpow : ((1 + 1 / 2 ^ 53) ^ (k + n + 1) : Rat) =
        (1 + 1 / 2 ^ 53) ^ k * (1 + 1 / 2 ^ 53) ^ n * (1 + 1 / 2 ^ 53) := by
      rw [pow_succ, pow_add]
    have hs : 0 ≤ s + k := add_nonneg hx.size_nonneg (Nat.cast_nonneg k)
    have ht : 0 ≤ t + n := add_nonneg hy.size_nonneg (Nat.cast_nonneg n)
    have ha := one_le_growth k
    have hb := one_le_growth n
    rw [drift, drift, drift, hpow]
    push_cast
    generalize ((1 + 1 / 2 ^ 53) ^ k : Rat) = a at *
    generalize ((1 + 1 / 2 ^ 53) ^ n : Rat) = b at *
    -- Each factor of the growth is at most the product of both.
    have hfirst : a * (s + k) ≤ a * b * (s + k) :=
      mul_le_mul_of_nonneg_right (le_mul_of_one_le_right (by linarith) hb) hs
    have hsecond : b * (t + n) ≤ a * b * (t + n) :=
      mul_le_mul_of_nonneg_right (le_mul_of_one_le_left (by linarith) ha) ht
    have hlast : 1 ≤ a * b := one_le_mul_of_one_le_of_one_le ha hb
    linarith

section Total

variable {ι : Type} {q size : ι → Rat} {steps : ι → Nat} {is : List ι} {xs : List Binary64}

/-- A running sum, where only what has stayed finite needs to be computed. -/
theorem foldl {acc : Binary64} {a s : Rat} {k : Nat}
    (h : List.Forall₂ (fun i x => x.IsFinite → Computed x (q i) (steps i) (size i)) is xs)
    (hacc : acc.IsFinite → Computed acc a k s) (hfinite : (xs.foldl (· + ·) acc).IsFinite) :
    Computed (xs.foldl (· + ·) acc) (a + (is.map q).sum)
      (k + (is.map fun i => steps i + 1).sum) (s + (is.map size).sum) := by
  induction h generalizing acc a k s with
  | nil => simpa using hacc hfinite
  | @cons i x is xs hx _ ih =>
      have hsum : (acc + x).IsFinite →
          Computed (acc + x) (a + q i) (k + steps i + 1) (s + size i) := fun h =>
        (hacc (isFinite_of_add h).1).add (hx (isFinite_of_add h).2) h
      have hrest := ih hsum hfinite
      simp only [List.map_cons, List.sum_cons, List.foldl_cons]
      rwa [← add_assoc a, ← add_assoc s, ← add_assoc k, ← add_assoc k]

theorem total (h : List.Forall₂ (fun i x => x.IsFinite → Computed x (q i) (steps i) (size i)) is xs)
    (hfinite : (Figure.total xs).IsFinite) :
    Computed (Figure.total xs) (is.map q).sum (is.map fun i => steps i + 1).sum
      (is.map size).sum := by
  have hzero : Computed (0.0 : Binary64) 0 0 0 :=
    exact (by decide +kernel) (by decide +kernel) abs_zero.le
  have hsum := foldl h (fun _ => hzero) hfinite
  rwa [zero_add, zero_add, zero_add] at hsum

end Total

end Computed

/-! Sums without rounding. -/

/-- The grains in one half. -/
def grainsPerHalf : Nat := Nat.pow 2 1073

theorem grainsPerHalf_mul_two : grainsPerHalf * 2 = grainsPerUnit := by
  have hpow : ∀ k l, l = k + 1 → Nat.pow 2 k * 2 = Nat.pow 2 l := by
    rintro k l rfl
    exact (Nat.pow_succ ..).symm
  unfold grainsPerHalf grainsPerUnit
  exact hpow 1073 1074 rfl

theorem halves_representable {n : Nat} (h : n ≤ significandLimit) :
    Representable (n * grainsPerHalf) := by
  unfold grainsPerHalf
  apply representable_mul_pow h
  decide

attribute [local irreducible] grainsPerUnit grainLimit grainsPerHalf significandLimit

/-- The number is half of a whole number with at most 53 bits. -/
structure IsHalf (x : Binary64) (n : Int) : Prop where
  isFinite : x.IsFinite
  value_eq : x.value = n / 2
  natAbs_le : n.natAbs ≤ significandLimit

namespace IsHalf

variable {x y : Binary64} {m n : Int}

theorem grainsPerHalf_mul_grain : (grainsPerHalf : Rat) * grain = 1 / 2 := by
  have hgrains : (grainsPerHalf * 2 : Rat) = grainsPerUnit := by
    exact_mod_cast grainsPerHalf_mul_two
  have hpos : (grainsPerHalf : Rat) ≠ 0 := by
    have hunit : (0 : Rat) < grainsPerUnit := by exact_mod_cast grainsPerUnit_pos
    intro hzero
    rw [← hgrains, hzero, zero_mul] at hunit
    exact lt_irrefl _ hunit
  rw [grain, ← hgrains]
  field_simp

/-- A count of half units is not rounded. -/
theorem of_round {d : Nat} (hd : 0 < d) (hn : n.natAbs ≤ significandLimit) :
    IsHalf (round (n < 0) (n.natAbs * grainsPerHalf * d) d) n := by
  have hrepr := halves_representable hn
  have hnearest := nearest_mul_self hd hrepr.2
  have hfinite : (round (n < 0) (n.natAbs * grainsPerHalf * d) d).IsFinite := by
    rw [round, dif_pos (hnearest.symm ▸ hrepr.1)]
    rfl
  refine ⟨hfinite, ?_, hn⟩
  rw [value_round hfinite, hnearest, Nat.cast_mul, ← mul_assoc, signOf_mul_natAbs, mul_assoc,
    grainsPerHalf_mul_grain, mul_one_div]

theorem quotient_two (hn : n.natAbs ≤ significandLimit) : IsHalf (quotient n 2) n := by
  have hround := of_round (n := n) (d := 2) (by decide) hn
  rw [Nat.mul_assoc, grainsPerHalf_mul_two] at hround
  have hquotient : quotient n 2 = round (n < 0) (n.natAbs * grainsPerUnit) 2 := by
    rw [quotient, show decide ((2 : Int) < 0) = false from rfl, Bool.bne_false]
    rfl
  rwa [hquotient]

theorem quotient_one (hn : (2 * n).natAbs ≤ significandLimit) : IsHalf (quotient n 1) (2 * n) := by
  have hround := of_round (n := 2 * n) (d := 1) (by decide) hn
  have hcount : (2 * n).natAbs * grainsPerHalf * 1 = n.natAbs * grainsPerUnit := by
    rw [Int.natAbs_mul, ← grainsPerHalf_mul_two]
    ring
  have hsign : (2 * n < 0) = (n < 0) := propext (by omega)
  have hquotient : quotient n 1 = round (n < 0) (n.natAbs * grainsPerUnit) 1 := by
    rw [quotient, show decide ((1 : Int) < 0) = false from rfl, Bool.bne_false]
    rfl
  rw [hcount] at hround
  simp only [hsign] at hround
  rwa [hquotient]

theorem exists_grains (h : IsHalf x n) :
    ∃ s g hg, x = finite s g hg ∧ signedGrains s g = n * grainsPerHalf := by
  obtain ⟨s, g, hg, rfl⟩ := exists_of_isFinite h.isFinite
  refine ⟨s, g, hg, rfl, ?_⟩
  have hvalue := h.value_eq
  rw [value_finite, ← signedGrains_eq, ← mul_one_div, ← grainsPerHalf_mul_grain,
    ← mul_assoc] at hvalue
  have hvalue := mul_right_cancel₀ grain_pos.ne' hvalue
  exact_mod_cast hvalue

/-- A sum that stays within 53 bits is not rounded. -/
theorem add (hx : IsHalf x m) (hy : IsHalf y n) (h : (m + n).natAbs ≤ significandLimit) :
    IsHalf (x + y) (m + n) := by
  obtain ⟨s, a, ha, rfl, hm⟩ := hx.exists_grains
  obtain ⟨t, b, hb, rfl, hn⟩ := hy.exists_grains
  have hcount : signedGrains s a + signedGrains t b = (m + n) * grainsPerHalf := by
    rw [hm, hn, add_mul]
  have hsum : finite s a ha + finite t b hb =
      roundSigned ((m + n) * grainsPerHalf) (s && t) := by
    rw [← hcount]
    rfl
  have hpos : (0 : Int) < grainsPerHalf := by
    have hunit := grainsPerUnit_pos
    rw [← grainsPerHalf_mul_two] at hunit
    omega
  rw [hsum, roundSigned]
  by_cases hzero : m + n = 0
  · rw [hzero, zero_mul, if_pos rfl]
    refine ⟨rfl, ?_, Nat.zero_le _⟩
    rw [zero, value_finite]
    simp
  · have hround := of_round (d := 1) Nat.one_pos h
    have hne : (m + n) * (grainsPerHalf : Int) ≠ 0 := mul_ne_zero hzero hpos.ne'
    have hsign : (m + n) * (grainsPerHalf : Int) < 0 * grainsPerHalf ↔ m + n < 0 :=
      mul_lt_mul_iff_left₀ hpos
    rw [zero_mul] at hsign
    rw [if_neg hne, Int.natAbs_mul, Int.natAbs_natCast]
    simp only [hsign]
    rwa [mul_one] at hround

variable {ι : Type} {counts : ι → Int} {is : List ι} {xs : List Binary64}

theorem foldl {acc : Binary64} (h : List.Forall₂ (fun i x => IsHalf x (counts i)) is xs)
    (hacc : IsHalf acc m) (hm : 0 ≤ m) (hcounts : ∀ i ∈ is, 0 ≤ counts i)
    (hle : m + (is.map counts).sum ≤ significandLimit) :
    IsHalf (xs.foldl (· + ·) acc) (m + (is.map counts).sum) := by
  induction h generalizing acc m with
  | nil => simpa using hacc
  | @cons i x is xs hx hrest ih =>
      obtain ⟨hi, his⟩ := List.forall_mem_cons.1 hcounts
      have hnonneg : 0 ≤ (is.map counts).sum :=
        List.sum_nonneg fun n hn => by
          obtain ⟨j, hj, rfl⟩ := List.mem_map.1 hn
          exact his j hj
      rw [List.map_cons, List.sum_cons, ← add_assoc] at hle ⊢
      exact ih (hacc.add hx (by omega)) (by omega) his hle

/-- A sum of positive halves that stays within 53 bits is exact. -/
theorem total (h : List.Forall₂ (fun i x => IsHalf x (counts i)) is xs)
    (hcounts : ∀ i ∈ is, 0 ≤ counts i) (hle : (is.map counts).sum ≤ significandLimit) :
    IsHalf (Figure.total xs) (is.map counts).sum := by
  have hzero : IsHalf (0.0 : Binary64) 0 :=
    ⟨by decide +kernel, by decide +kernel, Nat.zero_le _⟩
  have hsum := foldl h hzero le_rfl hcounts (by rwa [zero_add])
  rwa [zero_add] at hsum

end IsHalf

end ExpectedDamage.Binary64
