import ExpectedDamage.Proofs.Dice.Average
import ExpectedDamage.Proofs.Number.Magnitude
/-!
# Averages of an ordinary magnitude

An expression whose `size` has at most 53 bits has an average, and this average is not
larger than the size: no sum on the way to it is rounded up beyond it.
-/

namespace ExpectedDamage.Dice

open Binary64

attribute [local irreducible] grainsPerUnit grainLimit roundLimit

theorem within_keepAverage? {count sides : Int} {rule : KeepRule} {x : Binary64}
    (hkept : 1 ≤ rule.count) (hcount : rule.count ≤ count) (hsides : 1 ≤ sides)
    (hsize : rule.count * (sides + 1) ≤ 2 ^ 53) (h : keepAverage? count sides rule = .ok x) :
    Within x (rule.count * (sides + 1) : Int) := by
  rw [keepAverage?] at h
  split at h
  · next hknown =>
      obtain rfl := Except.ok.inj h
      obtain ⟨rfl, rfl, rfl, rfl⟩ | ⟨rfl, rfl, rfl, rfl⟩ | ⟨rfl, rfl, rfl, rfl⟩ :=
        exactKeepAverage?_cases hknown
      all_goals exact ⟨by decide +kernel, by decide +kernel⟩
  · obtain ⟨parts, hparts, h⟩ := bind_eq_ok_iff.1 h
    obtain rfl := Except.ok.inj h
    have hone : sides + 1 ≤ rule.count * (sides + 1) := le_mul_of_one_le_left (by omega) hkept
    have hattained := attained_intCast (n := sides + 1) (by omega) (hone.trans hsize)
    have hranks : List.Forall₂ (fun (_ : Int) part => Within part (sides + 1 : Int))
        (keptRanks count rule) parts := by
      refine forall₂_imp_of_mapM_eq_ok hparts fun rank hrank part hpart => ?_
      have hle := abs_rank_quotient_le hcount hsides rank hrank
      exact within_of_quotient? hpart (by exact_mod_cast hle) hattained
    have hsum : ((keptRanks count rule).map fun _ => sides + 1).sum = rule.count * (sides + 1) := by
      rw [List.map_const', List.sum_replicate, keptRanks_length, nsmul_eq_mul,
        Int.toNat_of_nonneg (by omega)]
    rw [← hsum] at hsize ⊢
    exact Within.total hranks (fun _ _ => by omega) hsize

theorem Term.within_average? {t : Term} {x : Binary64} (h : t.Valid) (hsize : t.size ≤ 2 ^ 53)
    (hx : t.average? = .ok x) : Within x t.size := by
  have hnonneg := size_nonneg h
  have hattained := attained_intCast hnonneg hsize
  obtain ⟨count, sides, keep⟩ := t
  obtain ⟨-, hsides, hkeep⟩ := h
  cases keep with
  | none => exact within_of_quotient? hx (abs_half_le hnonneg) hattained
  | some rule =>
      obtain ⟨hkept, hle⟩ := hkeep rule rfl
      exact within_keepAverage? hkept hle hsides hsize hx

theorem Term.averageable_of_size_le {t : Term} (h : t.Valid) (hsize : t.size ≤ 2 ^ 53) :
    t.Averageable := by
  have hnonneg := size_nonneg h
  have hlimit := (attained_intCast hnonneg hsize).lt_limit
  have hlt := sides_lt_size h
  obtain ⟨count, sides, keep⟩ := t
  obtain ⟨-, hsides, hkeep⟩ := h
  cases keep with
  | none =>
      have habs := (abs_half_le hnonneg).trans_lt hlimit
      rw [size, keptCount] at habs
      push_cast at habs
      exact habs
  | some rule =>
      obtain ⟨hkept, hle⟩ := hkeep rule rfl
      have hbound : (sides + 1 : Rat) ≤ size ⟨count, sides, some rule⟩ := by
        exact_mod_cast Int.add_one_le_of_lt hlt
      refine Or.inr fun rank hrank => ?_
      have habs := abs_rank_quotient_le hle hsides rank hrank
      push_cast at habs
      exact (habs.trans hbound).trans_lt hlimit

namespace Expression

/-- The parts of an average are within the range, so there is one. -/
theorem averageable_of_size_le {e : Expression} (h : e.Valid) (hsize : e.size ≤ 2 ^ 53) :
    (∀ t ∈ e.terms, t.Averageable) ∧ |(e.modifier : Rat)| < limit := by
  refine ⟨fun t ht => ?_, ?_⟩
  · exact Term.averageable_of_size_le (h.1 t ht) ((term_size_le h t ht).trans hsize)
  · have hnonneg : 0 ≤ |e.modifier| := abs_nonneg _
    have hsum := sum_size_nonneg h
    rw [size_eq] at hsize
    rw [← Int.cast_abs]
    exact (attained_intCast hnonneg (by omega)).lt_limit

/-- The average of an expression is not larger than its size. -/
theorem within_mean? {e : Expression} {x : Binary64} (h : e.Valid) (hsize : e.size ≤ 2 ^ 53)
    (hx : e.mean? = .ok x) : Within x e.size := by
  obtain ⟨parts, m, hparts, hm, rfl⟩ := exists_parts hx
  have hterms : List.Forall₂ (fun (t : Term) part => Within part t.size) e.terms parts :=
    forall₂_imp_of_mapM_eq_ok hparts fun t ht part hpart =>
      Term.within_average? (h.1 t ht) ((term_size_le h t ht).trans hsize) hpart
  have hsum := sum_size_nonneg h
  have hmodifier : 0 ≤ |e.modifier| := abs_nonneg _
  rw [size_eq] at hsize ⊢
  have htotal := Within.total hterms (fun t ht => Term.size_nonneg (h.1 t ht)) (by omega)
  have hm : Within m (|e.modifier| : Int) := by
    refine within_of_quotient? hm ?_ (attained_intCast hmodifier (by omega))
    rw [Int.cast_one, div_one, Int.cast_abs]
  rw [Int.cast_add]
  refine hm.add htotal ?_
  rw [← Int.cast_add]
  exact attained_intCast (by omega) (by omega)

end Expression

end ExpectedDamage.Dice
