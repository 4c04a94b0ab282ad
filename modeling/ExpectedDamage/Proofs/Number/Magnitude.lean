import ExpectedDamage.Proofs.Number.Range
import Mathlib.Algebra.BigOperators.Group.List.Basic
import Mathlib.Algebra.Order.BigOperators.Group.List
/-!
# The magnitude of binary64 numbers

`Within x bound` says that `x` is finite and not larger than a bound. Rounding does not pass
a bound that is `Attained`, that is the size of some binary64 number, and so sums and
products stay within the sums and products of such bounds. Whole numbers with at most 53
bits are attained, and powers of two far beyond everything that a casting needs.
-/

namespace ExpectedDamage.Binary64

theorem pow_add_grains (k : Nat) : Nat.pow 2 (k + 1074) = 2 ^ k * grainsPerUnit := by
  unfold grainsPerUnit
  generalize 1074 = l
  exact Nat.pow_add ..

theorem significandLimit_eq : significandLimit = 2 ^ 53 := by decide +kernel

attribute [local irreducible] grainsPerUnit grainLimit roundLimit significandLimit

/-- The size of some number: rounding does not pass it. -/
def Attained (bound : Rat) : Prop := ∃ z : Binary64, z.IsFinite ∧ |z.value| = bound

theorem attained_mul_pow {m k : Nat} (hm : m ≤ significandLimit) (hk : k ≤ 970) :
    Attained (m * 2 ^ k) := by
  have hrepr := representable_mul_pow (k := k + 1074) hm (by omega)
  refine ⟨finite false _ hrepr, rfl, ?_⟩
  have hpos : (grainsPerUnit : Rat) ≠ 0 := by exact_mod_cast grainsPerUnit_pos.ne'
  rw [value_finite, abs_signOf_mul false (Nat.cast_nonneg _), pow_add_grains, grain]
  push_cast
  field_simp

theorem attained_intCast {n : Int} (hn : 0 ≤ n) (hle : n ≤ 2 ^ 53) : Attained n := by
  obtain ⟨m, rfl⟩ := Int.eq_ofNat_of_zero_le hn
  have hm : m ≤ significandLimit := by
    rw [significandLimit_eq]
    omega
  simpa using attained_mul_pow (k := 0) hm (by decide)

theorem attained_pow {k : Nat} (hk : k ≤ 970) : Attained (2 ^ k) := by
  have hone : 1 ≤ significandLimit := by
    rw [significandLimit_eq]
    decide
  simpa using attained_mul_pow hone hk

theorem Attained.lt_limit {bound : Rat} (h : Attained bound) : bound < limit := by
  obtain ⟨z, hz, rfl⟩ := h
  exact abs_value_lt_limit hz

theorem pow_lt_limit {k : Nat} (hk : k ≤ 970) : (2 : Rat) ^ k < limit := (attained_pow hk).lt_limit

/-- The number is finite and not larger than the bound. -/
structure Within (x : Binary64) (bound : Rat) : Prop where
  isFinite : x.IsFinite
  abs_value_le : |x.value| ≤ bound

theorem Rounds.within {x : Binary64} {q bound : Rat} (h : Rounds x q) (hq : |q| ≤ bound)
    (hbound : Attained bound) : Within x bound := by
  obtain ⟨z, hz, rfl⟩ := hbound
  obtain ⟨hx, hle⟩ := h.abs_value_le hz hq
  exact ⟨hx, hle⟩

theorem within_of_quotient? {n d : Int} {x : Binary64} {bound : Rat}
    (h : Figure.quotient? n d = .ok x) (hq : |(n / d : Rat)| ≤ bound) (hbound : Attained bound) :
    Within x bound := by
  obtain ⟨hd, -, rfl⟩ := quotient?_eq_ok_iff.1 h
  exact (rounds_quotient hd).within hq hbound

theorem exists_quotient?_within {n d : Int} {bound : Rat} (hd : d ≠ 0)
    (hq : |(n / d : Rat)| ≤ bound) (hbound : Attained bound) :
    ∃ x, quotient? n d = .ok x ∧ Within x bound :=
  ⟨_, quotient?_eq_ok_iff.2 ⟨hd, hq.trans_lt hbound.lt_limit, rfl⟩,
    (rounds_quotient hd).within hq hbound⟩

namespace Within

variable {x y : Binary64} {a b : Rat} {j k : Nat}

theorem mono (h : Within x a) (hab : a ≤ b) : Within x b := ⟨h.isFinite, h.abs_value_le.trans hab⟩

theorem mono_pow (h : Within x (2 ^ j)) (hjk : j ≤ k) : Within x (2 ^ k) :=
  h.mono (pow_le_pow_right₀ (by norm_num) hjk)

theorem neg (h : Within x a) : Within (-x) a := by
  obtain ⟨s, g, hg, rfl⟩ := exists_of_isFinite h.isFinite
  refine ⟨rfl, ?_⟩
  have hneg : -finite s g hg = finite (!s) g hg := rfl
  have hle := h.abs_value_le
  rw [value_finite, abs_signOf_mul s (Nat.cast_nonneg g)] at hle
  rwa [hneg, value_finite, abs_signOf_mul (!s) (Nat.cast_nonneg g)]

theorem add (hx : Within x a) (hy : Within y b) (h : Attained (a + b)) : Within (x + y) (a + b) :=
  (rounds_add hx.isFinite hy.isFinite).within
    ((abs_add_le _ _).trans (add_le_add hx.abs_value_le hy.abs_value_le)) h

theorem mul (hx : Within x a) (hy : Within y b) (h : Attained (a * b)) :
    Within (x * y) (a * b) := by
  refine (rounds_mul hx.isFinite hy.isFinite).within ?_ h
  rw [abs_mul]
  exact mul_le_mul hx.abs_value_le hy.abs_value_le (abs_nonneg _)
    ((abs_nonneg _).trans hx.abs_value_le)

theorem add_pow (hx : Within x (2 ^ k)) (hy : Within y (2 ^ k)) (hk : k < 970) :
    Within (x + y) (2 ^ (k + 1)) := by
  have hdouble : (2 ^ (k + 1) : Rat) = 2 ^ k + 2 ^ k := by ring
  rw [hdouble]
  exact hx.add hy (hdouble ▸ attained_pow hk)

theorem add_half (hx : Within x (2 ^ k)) (hk : k < 970) : Within (x + 0.5) (2 ^ (k + 1)) := by
  have hhalf : Within 0.5 (2 ^ 0) := ⟨by decide +kernel, by decide +kernel⟩
  exact hx.add_pow (hhalf.mono_pow (Nat.zero_le k)) hk

theorem sub_pow (hx : Within x (2 ^ k)) (hy : Within y (2 ^ k)) (hk : k < 970) :
    Within (x - y) (2 ^ (k + 1)) := hx.add_pow hy.neg hk

theorem mul_pow (hx : Within x (2 ^ j)) (hy : Within y (2 ^ k)) (h : j + k ≤ 970) :
    Within (x * y) (2 ^ (j + k)) := by
  rw [pow_add]
  exact hx.mul hy (pow_add (2 : Rat) j k ▸ attained_pow h)

/-- A divisor that is not smaller than one half at most doubles. -/
theorem div_pow (hx : Within x (2 ^ k)) (hy : y.IsFinite) (hhalf : 1 / 2 ≤ y.value)
    (hk : k < 970) : Within (x / y) (2 ^ (k + 1)) := by
  have hpos : 0 < y.value := lt_of_lt_of_le (by norm_num) hhalf
  refine (rounds_div hx.isFinite hy hpos.ne').within ?_ (attained_pow hk)
  rw [abs_div, abs_of_pos hpos, div_le_iff₀ hpos]
  calc |x.value| ≤ 2 ^ k := hx.abs_value_le
    _ = 2 ^ (k + 1) * (1 / 2) := by ring
    _ ≤ 2 ^ (k + 1) * y.value := mul_le_mul_of_nonneg_left hhalf (by positivity)

theorem showable (h : Within x (2 ^ k)) (hk : k ≤ 963) : x.Showable := by
  refine ⟨h.isFinite, lt_of_le_of_lt ?_ (pow_lt_limit (k := k + 7) (by omega))⟩
  calc |x.value| * 100 ≤ 2 ^ k * 2 ^ 7 :=
        mul_le_mul h.abs_value_le (by norm_num) (by norm_num) (by positivity)
    _ = 2 ^ (k + 7) := (pow_add ..).symm

theorem floor? (h : Within x (2 ^ k)) : x.floor? = .ok ⌊x.value⌋ ∧ ⌊x.value⌋ ≤ 2 ^ k := by
  refine ⟨floor?_eq_ok_iff.2 ⟨h.isFinite, rfl⟩, ?_⟩
  have hle := (Int.floor_le x.value).trans ((le_abs_self _).trans h.abs_value_le)
  exact_mod_cast hle

section Total

variable {ι : Type} {size : ι → Int} {is : List ι} {xs : List Binary64}

theorem foldl {acc : Binary64} {n : Int} (h : List.Forall₂ (fun i x => Within x (size i)) is xs)
    (hacc : Within acc n) (hn : 0 ≤ n) (hsize : ∀ i ∈ is, 0 ≤ size i)
    (hle : n + (is.map size).sum ≤ 2 ^ 53) :
    Within (xs.foldl (· + ·) acc) (n + (is.map size).sum : Int) := by
  induction h generalizing acc n with
  | nil => simpa using hacc
  | @cons i x is xs hx _ ih =>
      obtain ⟨hi, his⟩ := List.forall_mem_cons.1 hsize
      have hnonneg : 0 ≤ (is.map size).sum :=
        List.sum_nonneg fun m hm => by
          obtain ⟨j, hj, rfl⟩ := List.mem_map.1 hm
          exact his j hj
      rw [List.map_cons, List.sum_cons, ← add_assoc] at hle ⊢
      have hsum := hacc.add hx (Int.cast_add (R := Rat) n (size i) ▸
        attained_intCast (by omega) (by omega))
      rw [← Int.cast_add] at hsum
      exact ih hsum (by omega) his hle

/-- A sum whose parts have sizes of at most 53 bits together stays within them. -/
theorem total (h : List.Forall₂ (fun i x => Within x (size i)) is xs)
    (hsize : ∀ i ∈ is, 0 ≤ size i) (hle : (is.map size).sum ≤ 2 ^ 53) :
    Within (Figure.total xs) (is.map size).sum := by
  have hzero : Within (0.0 : Binary64) (0 : Int) := ⟨by decide +kernel, by decide +kernel⟩
  have hsum := foldl h hzero le_rfl hsize (by rwa [zero_add])
  rwa [zero_add] at hsum

end Total

end Within

end ExpectedDamage.Binary64
