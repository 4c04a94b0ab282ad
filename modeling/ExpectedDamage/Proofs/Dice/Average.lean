import ExpectedDamage.Dice.Statistics
import ExpectedDamage.Proofs.Dice.Canonical
import ExpectedDamage.Proofs.Dice.Validity
import ExpectedDamage.Proofs.Number.AccumulatedError
import Mathlib.Algebra.BigOperators.Ring.List
import Mathlib.Tactic.NormNum
/-!
# The average of an expression

Over the rationals the average of a term is its `mean`. That of a plain term lies between
the minimum and the maximum of the term; that of a term with a keep rule does so exactly if
the rule keeps enough dice for the sides that they have (`Term.mean_mem_iff`). Too few kept
dice are the price of averaging them like places on a line: the highest of them counts more
than the last face, and the lowest less than the first one.

In binary64 numbers the average is computed in `steps`, so it is off by at most `drift`
(`Expression.computed`); without keep rules and with numbers of ordinary size it is exact
(`Expression.value_eq_mean`).
-/

namespace ExpectedDamage

theorem wholeSum_eq_sum (numbers : List Int) : wholeSum numbers = numbers.sum := rfl

namespace Figure

theorem quotient?_rat {n d : Int} (hd : d ≠ 0) :
    (quotient? n d : Except ArithmeticFault Rat) = .ok (n / d) := by
  rw [quotient?, if_neg hd]
  exact congrArg Except.ok (Rat.divInt_eq_div n d)

theorem total_rat (xs : List Rat) : total xs = xs.sum := by
  have hzero : (0.0 : Rat) = 0 := by norm_num
  rw [total, hzero, List.sum_eq_foldl]

end Figure

namespace Dice

/-! The ranks of kept dice. -/

/-- The sum of the ranks of the kept dice among a number of dice. -/
def KeepRule.rankSum (rule : KeepRule) (count : Int) : Rat :=
  match rule.mode with
  | .highest => rule.count * (2 * count - rule.count + 1) / 2
  | .lowest => rule.count * (rule.count + 1) / 2

theorem keptRanks_succ (count : Int) (mode : KeepMode) (k : Nat) :
    keptRanks count ⟨mode, (k + 1 : Nat)⟩ =
      keptRanks count ⟨mode, k⟩ ++
        [match mode with | .highest => count - k | .lowest => k + 1] := by
  rw [keptRanks, keptRanks, Int.toNat_natCast, Int.toNat_natCast, List.range_succ,
    List.map_append]
  rfl

theorem sum_keptRanks (count : Int) {rule : KeepRule} (h : 0 ≤ rule.count) :
    ((keptRanks count rule).map (Int.cast : Int → Rat)).sum = rule.rankSum count := by
  obtain ⟨mode, kept⟩ := rule
  obtain ⟨k, rfl⟩ := Int.eq_ofNat_of_zero_le h
  clear h
  induction k with
  | zero => cases mode <;> simp [keptRanks, KeepRule.rankSum]
  | succ k ih =>
      rw [keptRanks_succ, List.map_append, List.sum_append, ih]
      cases mode with
      | highest =>
          simp [KeepRule.rankSum]
          ring
      | lowest =>
          simp [KeepRule.rankSum]
          ring

theorem keptRanks_bounds {count : Int} {rule : KeepRule} (h : rule.count ≤ count) :
    ∀ rank ∈ keptRanks count rule, 0 ≤ rank ∧ rank ≤ count := by
  obtain ⟨mode, kept⟩ := rule
  intro rank hrank
  have h : kept ≤ count := h
  obtain ⟨i, hi, rfl⟩ := List.mem_map.1 hrank
  have hi : i < kept.toNat := List.mem_range.1 hi
  cases mode with
  | highest =>
      show 0 ≤ count - (i : Int) ∧ count - (i : Int) ≤ count
      omega
  | lowest =>
      show 0 ≤ (i : Int) + 1 ∧ (i : Int) + 1 ≤ count
      omega

/-! The average over the rationals. -/

/-- The average of kept dice, unless it is one of those that are known exactly. -/
def keepMean (count sides : Int) (rule : KeepRule) : Rat :=
  (exactKeepAverage? count sides rule).getD ((sides + 1) * rule.rankSum count / (count + 1))

theorem keepAverage?_rat {count sides : Int} {rule : KeepRule} (hcount : 0 ≤ count)
    (hkept : 0 ≤ rule.count) :
    keepAverage? count sides rule = .ok (keepMean count sides rule) := by
  rw [keepAverage?, keepMean]
  cases (exactKeepAverage? count sides rule : Option Rat) with
  | some average => rfl
  | none =>
      have hparts : (keptRanks count rule).mapM (fun rank =>
          (Figure.quotient? ((sides + 1) * rank) (count + 1) : Except ArithmeticFault Rat)) =
            .ok ((keptRanks count rule).map fun rank : Int =>
              ((sides + 1) / (count + 1) * rank : Rat)) := by
        refine mapM_eq_ok_map fun rank _ => ?_
        rw [Figure.quotient?_rat (by omega)]
        push_cast
        ring_nf
      simp only [hparts]
      refine congrArg Except.ok ?_
      rw [Figure.total_rat, List.sum_map_mul_left, sum_keptRanks count hkept, Option.getD_none]
      ring

/-- The average of a term. -/
def Term.mean (t : Term) : Rat :=
  match t.keep with
  | some rule => keepMean t.count t.sides rule
  | none => t.count * (t.sides + 1) / 2

theorem Term.average?_rat {t : Term} (h : t.Valid) : t.average? = .ok t.mean := by
  obtain ⟨count, sides, keep⟩ := t
  have hcount : 1 ≤ count := h.1
  cases keep with
  | none =>
      have hmean := Figure.quotient?_rat (n := count * (sides + 1)) (d := 2) (by decide)
      push_cast at hmean
      exact hmean
  | some rule =>
      have hkept : 1 ≤ rule.count := (h.2.2 rule rfl).1
      exact keepAverage?_rat (Int.le_trans (by decide) hcount) (by omega)

/-! Means within bounds. -/

/-- The keep rule, if there is one, keeps enough dice for the sides that they have. -/
def Term.KeepsEnough (t : Term) : Prop :=
  ∀ rule ∈ t.keep, 2 * (t.count + 1) ≤ (t.sides + 1) * (rule.count + 1)

instance (t : Term) : Decidable t.KeepsEnough := inferInstanceAs (Decidable (∀ _ ∈ _, _))

/-- The rules whose average is known exactly. -/
theorem exactKeepAverage?_cases {α : Type} [Figure α] {count sides : Int} {rule : KeepRule}
    {average : α} (h : exactKeepAverage? count sides rule = some average) :
    (count = 4 ∧ sides = 6 ∧ rule = ⟨.highest, 3⟩ ∧ average = 12.24) ∨
      (count = 2 ∧ sides = 20 ∧ rule = ⟨.highest, 1⟩ ∧ average = 13.825) ∨
      (count = 2 ∧ sides = 20 ∧ rule = ⟨.lowest, 1⟩ ∧ average = 7.175) := by
  unfold exactKeepAverage? at h
  split_ifs at h with hthree hhighest hlowest
  · exact .inl ⟨hthree.1, hthree.2.1, hthree.2.2, (Option.some.inj h).symm⟩
  · exact .inr (.inl ⟨hhighest.1, hhighest.2.1, hhighest.2.2, (Option.some.inj h).symm⟩)
  · exact .inr (.inr ⟨hlowest.1, hlowest.2.1, hlowest.2.2, (Option.some.inj h).symm⟩)

/-- They keep enough dice, and their averages lie within the bounds. -/
theorem bounds_of_exactKeepAverage? {count sides : Int} {rule : KeepRule} {average : Rat}
    (h : exactKeepAverage? count sides rule = some average) :
    2 * (count + 1) ≤ (sides + 1) * (rule.count + 1) ∧
      (rule.count : Rat) ≤ average ∧ average ≤ rule.count * sides := by
  obtain ⟨rfl, rfl, rfl, rfl⟩ | ⟨rfl, rfl, rfl, rfl⟩ | ⟨rfl, rfl, rfl, rfl⟩ :=
    exactKeepAverage?_cases h
  all_goals norm_num

section Bounds

variable {n k s : Rat} (hk : 1 ≤ k) (hkn : k ≤ n) (hs : 1 ≤ s)
include hk hkn hs

/-- The mean of the `k` highest of `n` dice is never below the minimum, and its distance from
the maximum has the sign of `(s + 1) * (k + 1) - 2 * (n + 1)`. -/
theorem highest_mem_iff :
    k ≤ (s + 1) * (k * (2 * n - k + 1) / 2) / (n + 1) ∧
        (s + 1) * (k * (2 * n - k + 1) / 2) / (n + 1) ≤ k * s ↔
      2 * (n + 1) ≤ (s + 1) * (k + 1) := by
  have hn : 0 < n + 1 := by linarith
  have hlow : 2 * (n + 1) ≤ (s + 1) * (2 * n - k + 1) :=
    mul_le_mul (by linarith) (by linarith) hn.le (by linarith)
  have hroom : k * s * (n + 1) - (s + 1) * (k * (2 * n - k + 1) / 2) =
      k / 2 * ((s + 1) * (k + 1) - 2 * (n + 1)) := by ring
  rw [le_div_iff₀ hn, div_le_iff₀ hn, and_iff_right (by nlinarith), ← sub_nonneg, hroom,
    mul_nonneg_iff_of_pos_left (by linarith), sub_nonneg]

/-- The mean of the `k` lowest of `n` dice is never above the maximum, and its distance from
the minimum has the sign of `(s + 1) * (k + 1) - 2 * (n + 1)`. -/
theorem lowest_mem_iff :
    k ≤ (s + 1) * (k * (k + 1) / 2) / (n + 1) ∧
        (s + 1) * (k * (k + 1) / 2) / (n + 1) ≤ k * s ↔
      2 * (n + 1) ≤ (s + 1) * (k + 1) := by
  have hn : 0 < n + 1 := by linarith
  have hhigh : (s + 1) * (k + 1) ≤ 2 * s * (n + 1) :=
    mul_le_mul (by linarith) (by linarith) (by linarith) (by linarith)
  have hroom : (s + 1) * (k * (k + 1) / 2) - k * (n + 1) =
      k / 2 * ((s + 1) * (k + 1) - 2 * (n + 1)) := by ring
  rw [le_div_iff₀ hn, div_le_iff₀ hn, and_iff_left (by nlinarith), ← sub_nonneg, hroom,
    mul_nonneg_iff_of_pos_left (by linarith), sub_nonneg]

end Bounds

theorem keepMean_mem_iff {count sides : Int} {rule : KeepRule} (hkept : 1 ≤ rule.count)
    (hcount : rule.count ≤ count) (hsides : 1 ≤ sides) :
    (rule.count : Rat) ≤ keepMean count sides rule ∧
        keepMean count sides rule ≤ rule.count * sides ↔
      2 * (count + 1) ≤ (sides + 1) * (rule.count + 1) := by
  rw [keepMean]
  cases h : (exactKeepAverage? count sides rule : Option Rat) with
  | some average =>
      obtain ⟨henough, hbounds⟩ := bounds_of_exactKeepAverage? h
      exact iff_of_true hbounds henough
  | none =>
      obtain ⟨mode, kept⟩ := rule
      have hone : (1 : Rat) ≤ kept := by exact_mod_cast hkept
      have hle : (kept : Rat) ≤ count := by exact_mod_cast hcount
      have hface : (1 : Rat) ≤ sides := by exact_mod_cast hsides
      have hcast : 2 * (count + 1) ≤ (sides + 1) * (kept + 1) ↔
          (2 * (count + 1) : Rat) ≤ (sides + 1) * (kept + 1) := by norm_cast
      cases mode with
      | highest => exact (highest_mem_iff hone hle hface).trans hcast.symm
      | lowest => exact (lowest_mem_iff hone hle hface).trans hcast.symm

/-- The mean of a term lies between its bounds exactly if it keeps enough dice. -/
theorem Term.mean_mem_iff {t : Term} (h : t.Valid) :
    (t.keptCount : Rat) ≤ t.mean ∧ t.mean ≤ t.keptCount * t.sides ↔ t.KeepsEnough := by
  obtain ⟨count, sides, keep⟩ := t
  obtain ⟨hcount, hsides, hkeep⟩ : 1 ≤ count ∧ 1 ≤ sides ∧ _ := h
  cases keep with
  | none =>
      have hcount : (1 : Rat) ≤ count := by exact_mod_cast hcount
      have hsides : (1 : Rat) ≤ sides := by exact_mod_cast hsides
      have hmean : (count : Rat) ≤ count * (sides + 1) / 2 ∧
          (count * (sides + 1) / 2 : Rat) ≤ count * sides := by
        constructor
        · nlinarith
        · nlinarith
      exact iff_of_true hmean nofun
  | some rule =>
      obtain ⟨hkept, hle⟩ := hkeep rule rfl
      have henough : Term.KeepsEnough ⟨count, sides, some rule⟩ ↔
          2 * (count + 1) ≤ (sides + 1) * (rule.count + 1) := by
        simp [KeepsEnough]
      exact (keepMean_mem_iff hkept hle hsides).trans henough.symm

namespace Expression

/-- The average of an expression. -/
def mean (e : Expression) : Rat := e.modifier + (e.terms.map Term.mean).sum

theorem mean?_rat {e : Expression} (h : e.Valid) : e.mean? = .ok e.mean := by
  have hparts : e.terms.mapM (Term.average? : Term → Except ArithmeticFault Rat) =
      .ok (e.terms.map Term.mean) := mapM_eq_ok_map fun t ht => Term.average?_rat (h.1 t ht)
  have hmodifier : (Figure.ofInt? e.modifier : Except ArithmeticFault Rat) = .ok e.modifier := by
    rw [Figure.ofInt?, Figure.quotient?_rat (by decide), Int.cast_one, div_one]
  rw [mean?, hparts, hmodifier, mean, ← Figure.total_rat]
  rfl

theorem cast_wholeSum_map (ts : List Term) (f : Term → Int) :
    (wholeSum (ts.map f) : Rat) = (ts.map fun t => (f t : Rat)).sum := by
  induction ts with
  | nil => rfl
  | cons t ts ih =>
      rw [wholeSum_eq_sum] at ih ⊢
      rw [List.map_cons, List.map_cons, List.sum_cons, List.sum_cons, Int.cast_add, ih]

/-- Where all terms keep enough dice, the mean lies between the minimum and the maximum. -/
theorem mean_mem {e : Expression} (h : e.Valid) (henough : ∀ t ∈ e.terms, t.KeepsEnough) :
    (e.minimum : Rat) ≤ e.mean ∧ e.mean ≤ e.maximum := by
  have hterms : ∀ t ∈ e.terms, (t.keptCount : Rat) ≤ t.mean ∧ t.mean ≤ t.keptCount * t.sides :=
    fun t ht => (Term.mean_mem_iff (h.1 t ht)).2 (henough t ht)
  have hlow := List.sum_le_sum fun t ht => (hterms t ht).1
  have hhigh := List.sum_le_sum fun t ht => (hterms t ht).2
  rw [minimum, maximum, mean, Int.cast_add, Int.cast_add, cast_wholeSum_map, cast_wholeSum_map]
  push_cast
  constructor
  · linarith
  · linarith

end Expression

/-! The average in binary64 numbers. -/

open Binary64

attribute [local irreducible] grainsPerUnit grainLimit significandLimit

theorem computed_of_quotient? {n d : Int} {x : Binary64} {size : Rat}
    (h : Figure.quotient? n d = .ok x) (hsize : |(n / d : Rat)| ≤ size) :
    Computed x (n / d) 1 size := by
  obtain ⟨hd, hlimit, rfl⟩ := quotient?_eq_ok_iff.1 h
  have hfinite := (rounds_quotient hd).isFinite_iff.2 hlimit
  exact .of_rounded hfinite (rounded_quotient hd hfinite) hsize

theorem keptRanks_length {count : Int} {rule : KeepRule} :
    (keptRanks count rule).length = rule.count.toNat := by
  rw [keptRanks, List.length_map, List.length_range]

theorem abs_half_le {n : Int} (hn : 0 ≤ n) : |(n / (2 : Int) : Rat)| ≤ n := by
  have hn : (0 : Rat) ≤ n := by exact_mod_cast hn
  rw [Int.cast_ofNat, abs_of_nonneg (by positivity)]
  exact half_le_self hn

/-- A kept die counts at most as much as a rank behind the last one. -/
theorem abs_rank_quotient_le {count sides : Int} {rule : KeepRule} (hcount : rule.count ≤ count)
    (hsides : 1 ≤ sides) : ∀ rank ∈ keptRanks count rule,
      |(((sides + 1) * rank : Int) / (count + 1 : Int) : Rat)| ≤ sides + 1 := by
  intro rank hrank
  obtain ⟨hlow, hhigh⟩ := keptRanks_bounds hcount rank hrank
  have hlow : (0 : Rat) ≤ rank := by exact_mod_cast hlow
  have hhigh : (rank : Rat) ≤ count := by exact_mod_cast hhigh
  have hsides : (1 : Rat) ≤ sides := by exact_mod_cast hsides
  have hcount := hlow.trans hhigh
  push_cast
  rw [abs_of_nonneg (by positivity), div_le_iff₀ (by linarith)]
  exact mul_le_mul_of_nonneg_left (by linarith) (by linarith)

/-- The known averages are rounded once. -/
theorem computed_exactKeepAverage? {count sides : Int} {rule : KeepRule} {x : Binary64}
    (h : exactKeepAverage? count sides rule = some x) :
    Computed x (keepMean count sides rule) 1 (rule.count * (sides + 1)) := by
  obtain ⟨rfl, rfl, rfl, rfl⟩ | ⟨rfl, rfl, rfl, rfl⟩ | ⟨rfl, rfl, rfl, rfl⟩ :=
    exactKeepAverage?_cases h
  all_goals exact ⟨by decide +kernel, by decide +kernel, by decide +kernel⟩

/-- Which averages are known does not depend on the carrier. -/
theorem exactKeepAverage?_eq_none {α β : Type} [Figure α] [Figure β] {count sides : Int}
    {rule : KeepRule} (h : (exactKeepAverage? count sides rule : Option α) = none) :
    (exactKeepAverage? count sides rule : Option β) = none := by
  unfold exactKeepAverage? at h ⊢
  split_ifs at h ⊢
  rfl

/-- The quotients that the average of a term is made of are within the range. -/
def Term.Averageable (t : Term) : Prop :=
  match t.keep with
  | some rule =>
      (exactKeepAverage? t.count t.sides rule : Option Rat).isSome = true ∨
        ∀ rank ∈ keptRanks t.count rule, |((t.sides + 1) * rank / (t.count + 1) : Rat)| < limit
  | none => |(t.count * (t.sides + 1) / 2 : Rat)| < limit

theorem exists_keepAverage?_iff {count sides : Int} {rule : KeepRule} (hcount : 0 ≤ count) :
    (∃ x : Binary64, keepAverage? count sides rule = .ok x) ↔
      (exactKeepAverage? count sides rule : Option Rat).isSome = true ∨
        ∀ rank ∈ keptRanks count rule, |((sides + 1) * rank / (count + 1) : Rat)| < limit := by
  rw [keepAverage?]
  cases hknown : (exactKeepAverage? count sides rule : Option Binary64) with
  | some average =>
      refine iff_of_true ⟨average, rfl⟩ (Or.inl ?_)
      cases hrat : (exactKeepAverage? count sides rule : Option Rat) with
      | some q => rfl
      | none =>
          rw [exactKeepAverage?_eq_none hrat] at hknown
          exact nomatch hknown
  | none =>
      have hparts : (∃ parts : List Binary64, (keptRanks count rule).mapM (fun rank =>
          Figure.quotient? ((sides + 1) * rank) (count + 1)) = .ok parts) ↔
          ∀ rank ∈ keptRanks count rule, |((sides + 1) * rank / (count + 1) : Rat)| < limit := by
        rw [exists_mapM_eq_ok_iff]
        refine forall₂_congr fun rank _ => ?_
        rw [exists_quotient?_iff (by omega)]
        push_cast
        rfl
      simp only [exactKeepAverage?_eq_none hknown, Option.isSome_none, Bool.false_eq_true,
        false_or, exists_bind_eq_ok_iff]
      rw [← hparts]
      exact exists_congr fun parts => and_iff_left ⟨_, rfl⟩

theorem Term.exists_average?_iff {t : Term} (h : t.Valid) :
    (∃ x : Binary64, t.average? = .ok x) ↔ t.Averageable := by
  obtain ⟨count, sides, keep⟩ := t
  have hcount : 1 ≤ count := h.1
  cases keep with
  | some rule => exact exists_keepAverage?_iff (Int.le_trans (by decide) hcount)
  | none =>
      have hquotient := exists_quotient?_iff (n := count * (sides + 1)) (d := 2) (by decide)
      push_cast at hquotient
      exact hquotient

/-- The roundings in the average of a term. -/
def Term.steps (t : Term) : Nat :=
  match t.keep with
  | some rule => 2 * rule.count.toNat
  | none => 1

theorem computed_keepAverage? {count sides : Int} {rule : KeepRule} {x : Binary64}
    (hkept : 1 ≤ rule.count) (hcount : rule.count ≤ count) (hsides : 1 ≤ sides)
    (h : keepAverage? count sides rule = .ok x) (hfinite : x.IsFinite) :
    Computed x (keepMean count sides rule) (2 * rule.count.toNat)
      (rule.count * (sides + 1)) := by
  rw [keepAverage?] at h
  split at h
  · next hknown =>
      obtain rfl := Except.ok.inj h
      exact (computed_exactKeepAverage? hknown).mono (by omega) le_rfl
  · next hunknown =>
      obtain ⟨parts, hparts, h⟩ := bind_eq_ok_iff.1 h
      obtain rfl := Except.ok.inj h
      have hranks : List.Forall₂ (fun (rank : Int) part => part.IsFinite → Computed part
          ((sides + 1) / (count + 1) * rank) 1 (sides + 1)) (keptRanks count rule) parts := by
        refine forall₂_imp_of_mapM_eq_ok hparts fun rank hrank part hpart _ => ?_
        have hquotient : (((sides + 1) * rank : Int) / (count + 1 : Int) : Rat) =
            (sides + 1) / (count + 1) * rank := by
          push_cast
          ring
        rw [← hquotient]
        exact computed_of_quotient? hpart (abs_rank_quotient_le hcount hsides rank hrank)
      have htotal := Computed.total hranks hfinite
      rw [List.sum_map_mul_left, sum_keptRanks count (by omega)] at htotal
      rw [keepMean, exactKeepAverage?_eq_none hunknown, Option.getD_none, mul_div_right_comm]
      rw [List.map_const', List.map_const', List.sum_replicate, List.sum_replicate,
        keptRanks_length] at htotal
      have hkept : (rule.count.toNat : Rat) = rule.count := by
        exact_mod_cast Int.toNat_of_nonneg (by omega)
      refine htotal.mono ?_ ?_
      · rw [nsmul_eq_mul, Nat.cast_id, mul_comm]
      · rw [nsmul_eq_mul, hkept]

theorem Term.computed {t : Term} {x : Binary64} (h : t.Valid) (hx : t.average? = .ok x)
    (hfinite : x.IsFinite) : Computed x t.mean t.steps (t.keptCount * (t.sides + 1)) := by
  obtain ⟨count, sides, keep⟩ := t
  obtain ⟨hcount, hsides, hkeep⟩ : 1 ≤ count ∧ 1 ≤ sides ∧ _ := h
  cases keep with
  | none =>
      have hnonneg : 0 ≤ count * (sides + 1) := mul_nonneg (by omega) (by omega)
      have hcomputed := computed_of_quotient? hx (abs_half_le hnonneg)
      push_cast at hcomputed
      exact hcomputed
  | some rule =>
      obtain ⟨hkept, hle⟩ := hkeep rule rfl
      exact computed_keepAverage? hkept hle hsides hx hfinite

/-! Sizes. -/

/-- What a term adds to the size of an expression. -/
def Term.size (t : Term) : Int := t.keptCount * (t.sides + 1)

theorem Term.one_le_keptCount {t : Term} (h : t.Valid) : 1 ≤ t.keptCount := by
  obtain ⟨count, sides, keep⟩ := t
  cases keep with
  | none => exact h.1
  | some rule => exact (h.2.2 rule rfl).1

theorem Term.sides_lt_size {t : Term} (h : t.Valid) : t.sides < t.size := by
  have hsides : 1 ≤ t.sides := h.2.1
  have hle : t.sides + 1 ≤ t.size := le_mul_of_one_le_left (by omega) (one_le_keptCount h)
  omega

theorem Term.size_nonneg {t : Term} (h : t.Valid) : 0 ≤ t.size := by
  have hsides : 1 ≤ t.sides := h.2.1
  have hlt := sides_lt_size h
  omega

namespace Expression

/-- The roundings in the average of an expression. -/
def steps (e : Expression) : Nat := 1 + (e.terms.map fun t => t.steps + 1).sum + 1

/-- The size of all that the average of an expression is made of. -/
def size (e : Expression) : Int :=
  |e.modifier| + wholeSum (e.terms.map fun t => t.keptCount * (t.sides + 1))

theorem size_eq (e : Expression) : e.size = |e.modifier| + (e.terms.map Term.size).sum := rfl

theorem nonneg_of_mem_sizes {e : Expression} (h : e.Valid) :
    ∀ n ∈ e.terms.map Term.size, 0 ≤ n := by
  intro n hn
  obtain ⟨t, ht, rfl⟩ := List.mem_map.1 hn
  exact Term.size_nonneg (h.1 t ht)

theorem sum_size_nonneg {e : Expression} (h : e.Valid) : 0 ≤ (e.terms.map Term.size).sum :=
  List.sum_nonneg (nonneg_of_mem_sizes h)

theorem size_nonneg {e : Expression} (h : e.Valid) : 0 ≤ e.size := by
  rw [size_eq]
  exact add_nonneg (abs_nonneg e.modifier) (sum_size_nonneg h)

theorem term_size_le {e : Expression} (h : e.Valid) : ∀ t ∈ e.terms, t.size ≤ e.size := by
  intro t ht
  have hle : t.size ≤ (e.terms.map Term.size).sum :=
    List.single_le_sum (nonneg_of_mem_sizes h) _ (List.mem_map_of_mem ht)
  have hmodifier := abs_nonneg e.modifier
  rw [size_eq]
  omega

/-- The most that the average of an expression is off by. -/
def drift (e : Expression) : Rat := Binary64.drift e.steps e.size

theorem drift_nonneg {e : Expression} (h : e.Valid) : 0 ≤ e.drift :=
  Binary64.drift_nonneg (by exact_mod_cast size_nonneg h)

theorem exists_parts {e : Expression} {x : Binary64} (h : e.mean? = .ok x) :
    ∃ parts m, e.terms.mapM Term.average? = .ok parts ∧ Figure.quotient? e.modifier 1 = .ok m ∧
      m + Figure.total parts = x := by
  obtain ⟨parts, hparts, h⟩ := bind_eq_ok_iff.1 h
  obtain ⟨m, hm, h⟩ := bind_eq_ok_iff.1 h
  exact ⟨parts, m, hparts, hm, Except.ok.inj h⟩

/-- A finite average is the mean up to its roundings. -/
theorem computed {e : Expression} {x : Binary64} (h : e.Valid) (hx : e.mean? = .ok x)
    (hfinite : x.IsFinite) : Computed x e.mean e.steps e.size := by
  obtain ⟨parts, m, hparts, hm, rfl⟩ := exists_parts hx
  have hterms : List.Forall₂ (fun (t : Term) part => part.IsFinite →
      Computed part t.mean t.steps (t.keptCount * (t.sides + 1) : Int)) e.terms parts := by
    refine forall₂_imp_of_mapM_eq_ok hparts fun t ht part hpart hfinite => ?_
    have hcomputed := Term.computed (h.1 t ht) hpart hfinite
    push_cast
    exact hcomputed
  have htotal := Computed.total hterms (isFinite_of_add hfinite).2
  have hmodifier := computed_of_quotient? hm le_rfl
  rw [Int.cast_one, div_one] at hmodifier
  rw [mean, steps, size, Int.cast_add, Int.cast_abs, cast_wholeSum_map]
  exact hmodifier.add htotal hfinite

/-- Without keep rules, the average of numbers of ordinary size is the mean. -/
theorem value_eq_mean {e : Expression} {x : Binary64} (h : e.Valid) (hx : e.mean? = .ok x)
    (hplain : ∀ t ∈ e.terms, t.keep = none) (hsize : e.size ≤ 2 ^ 52) : x.value = e.mean := by
  obtain ⟨parts, m, hparts, hm, rfl⟩ := exists_parts hx
  have hlimit : (significandLimit : Int) = 2 * 2 ^ 52 := by decide +kernel
  have hsum := sum_size_nonneg h
  have hhalves : (e.modifier.natAbs : Int) + (e.terms.map Term.size).sum ≤ 2 ^ 52 := by
    rwa [← Int.abs_eq_natAbs]
  have hterms : List.Forall₂ (fun t part => IsHalf part (Term.size t)) e.terms parts := by
    refine forall₂_imp_of_mapM_eq_ok hparts fun t ht part hpart => ?_
    have hle := term_size_le h t ht
    have hnonneg := Term.size_nonneg (h.1 t ht)
    have hpart : Figure.quotient? t.size 2 = .ok part := by
      rw [Term.average?, hplain t ht] at hpart
      rwa [Term.size, Term.keptCount, hplain t ht]
    obtain ⟨-, -, rfl⟩ := quotient?_eq_ok_iff.1 hpart
    exact .quotient_two (by omega)
  have hmodifier : IsHalf m (2 * e.modifier) := by
    obtain ⟨-, -, rfl⟩ := quotient?_eq_ok_iff.1 hm
    exact .quotient_one (by omega)
  have hmean : (e.terms.map Term.mean).sum = ((e.terms.map Term.size).sum : Int) / 2 := by
    rw [← wholeSum_eq_sum, cast_wholeSum_map, div_eq_mul_inv, ← List.sum_map_mul_right]
    refine congrArg List.sum (List.map_congr_left fun t ht => ?_)
    simp only [Term.size, Term.mean, Term.keptCount, hplain t ht]
    push_cast
    ring
  have htotal := IsHalf.total hterms (fun t ht => Term.size_nonneg (h.1 t ht)) (by omega)
  rw [(hmodifier.add htotal (by omega)).value_eq, mean, hmean]
  push_cast
  ring

/-- The average of a valid expression succeeds exactly if its parts are within the range. -/
theorem exists_mean?_iff {e : Expression} (h : e.Valid) :
    (∃ x : Binary64, e.mean? = .ok x) ↔
      (∀ t ∈ e.terms, t.Averageable) ∧ |(e.modifier : Rat)| < limit := by
  have hterms : (∃ parts : List Binary64, e.terms.mapM Term.average? = .ok parts) ↔
      ∀ t ∈ e.terms, t.Averageable := by
    rw [exists_mapM_eq_ok_iff]
    exact forall₂_congr fun t ht => Term.exists_average?_iff (h.1 t ht)
  have hmodifier := exists_quotient?_iff (n := e.modifier) Int.one_ne_zero
  rw [Int.cast_one, div_one] at hmodifier
  rw [mean?, exists_bind_eq_ok_iff, ← hterms, ← hmodifier]
  constructor
  · rintro ⟨parts, hparts, h⟩
    obtain ⟨m, hm, -⟩ := exists_bind_eq_ok_iff.1 h
    exact ⟨⟨parts, hparts⟩, m, hm⟩
  · rintro ⟨⟨parts, hparts⟩, m, hm⟩
    exact ⟨parts, hparts, exists_bind_eq_ok_iff.2 ⟨m, hm, _, rfl⟩⟩

end Expression

end Dice

end ExpectedDamage
