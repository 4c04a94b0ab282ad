import ExpectedDamage.Number.Rounding
import ExpectedDamage.Proofs.Number.RoundingError
import Mathlib.Data.List.Forall2
/-!
# Calculations that succeed

A calculation that succeeds tells something about each of its steps. Where an amount was
raised and both are binary64 numbers, they differ by what was added up to rounding
(`abs_raise_sub_le`).
-/

namespace ExpectedDamage

section Except

variable {ε α β : Type}

theorem error_ne_ok {e : ε} {a : α} : (.error e : Except ε α) ≠ .ok a := nofun

theorem eq_ok_of_toOption {x : Except ε α} {a : α} (h : x.toOption = some a) : x = .ok a := by
  cases x with
  | error e => exact nomatch h
  | ok b => exact congrArg Except.ok (Option.some.inj h)

instance decidableSucceeds (x : Except ε α) : Decidable (∃ a, x = .ok a) :=
  match x with
  | .ok a => .isTrue ⟨a, rfl⟩
  | .error _ => .isFalse nofun

theorem bind_eq_ok_iff {x : Except ε α} {f : α → Except ε β} {b : β} :
    x >>= f = .ok b ↔ ∃ a, x = .ok a ∧ f a = .ok b := by
  cases x with
  | error e => exact ⟨nofun, nofun⟩
  | ok a => exact ⟨fun h => ⟨a, rfl, h⟩, fun ⟨a', ha, h⟩ => Except.ok.inj ha ▸ h⟩

/-- A calculation succeeds exactly if its first step does and what follows on it. -/
theorem exists_bind_eq_ok_iff {x : Except ε α} {f : α → Except ε β} :
    (∃ b, x >>= f = .ok b) ↔ ∃ a, x = .ok a ∧ ∃ b, f a = .ok b := by
  simp only [bind_eq_ok_iff]
  constructor
  · rintro ⟨b, a, ha, hb⟩
    exact ⟨a, ha, b, hb⟩
  · rintro ⟨a, ha, b, hb⟩
    exact ⟨b, a, ha, hb⟩

theorem map_eq_ok_iff {x : Except ε α} {f : α → β} {b : β} :
    f <$> x = .ok b ↔ ∃ a, x = .ok a ∧ f a = b := by
  cases x with
  | error e => exact ⟨nofun, nofun⟩
  | ok a =>
      constructor
      · intro h
        exact ⟨a, rfl, Except.ok.inj h⟩
      · rintro ⟨a', ha, rfl⟩
        exact Except.ok.inj ha ▸ rfl

theorem map_eq_error_iff {x : Except ε α} {f : α → β} {e : ε} :
    f <$> x = .error e ↔ x = .error e := by
  cases x with
  | error e' =>
      constructor
      · intro h
        exact congrArg Except.error (Except.error.inj h)
      · intro h
        exact congrArg Except.error (Except.error.inj h)
  | ok a => exact ⟨nofun, nofun⟩

theorem exists_map_eq_ok_iff {x : Except ε α} {f : α → β} :
    (∃ b, f <$> x = .ok b) ↔ ∃ a, x = .ok a := by
  simp [map_eq_ok_iff]

theorem exists_mapM_eq_ok_iff {f : α → Except ε β} {xs : List α} :
    (∃ ys, xs.mapM f = .ok ys) ↔ ∀ x ∈ xs, ∃ y, f x = .ok y := by
  induction xs with
  | nil => exact iff_of_true ⟨[], rfl⟩ nofun
  | cons x xs ih =>
      rw [List.mapM_cons, exists_bind_eq_ok_iff, List.forall_mem_cons, ← ih]
      refine ⟨fun ⟨y, hy, h⟩ => ?_, fun ⟨⟨y, hy⟩, h⟩ => ⟨y, hy, ?_⟩⟩
      · obtain ⟨ys, hys, -⟩ := exists_bind_eq_ok_iff.1 h
        exact ⟨⟨y, hy⟩, ys, hys⟩
      · obtain ⟨ys, hys⟩ := h
        exact exists_bind_eq_ok_iff.2 ⟨ys, hys, y :: ys, rfl⟩

theorem forall₂_of_mapM_eq_ok {f : α → Except ε β} {xs : List α} {ys : List β}
    (h : xs.mapM f = .ok ys) : List.Forall₂ (fun x y => f x = .ok y) xs ys := by
  induction xs generalizing ys with
  | nil =>
      obtain rfl : [] = ys := Except.ok.inj h
      exact .nil
  | cons x xs ih =>
      rw [List.mapM_cons, bind_eq_ok_iff] at h
      obtain ⟨y, hy, h⟩ := h
      obtain ⟨ys', hys, h⟩ := bind_eq_ok_iff.1 h
      obtain rfl : y :: ys' = ys := Except.ok.inj h
      exact .cons hy (ih hys)

theorem mapM_eq_ok_of_forall₂ {f : α → Except ε β} {xs : List α} {ys : List β}
    (h : List.Forall₂ (fun x y => f x = .ok y) xs ys) : xs.mapM f = .ok ys := by
  induction h with
  | nil => rfl
  | cons hx _ ih =>
      rw [List.mapM_cons, hx, ih]
      rfl

/-- Each result has what follows from its origin. -/
theorem forall₂_imp_of_mapM_eq_ok {f : α → Except ε β} {R : α → β → Prop} {xs : List α}
    {ys : List β} (h : xs.mapM f = .ok ys) (hR : ∀ x ∈ xs, ∀ y, f x = .ok y → R x y) :
    List.Forall₂ R xs ys := by
  have hall := forall₂_of_mapM_eq_ok h
  clear h
  induction hall with
  | nil => exact .nil
  | cons hx _ ih =>
      obtain ⟨hhead, htail⟩ := List.forall_mem_cons.1 hR
      exact .cons (hhead _ hx) (ih htail)

theorem exists_of_mem_of_mapM_eq_ok {f : α → Except ε β} {xs : List α} {ys : List β}
    (h : xs.mapM f = .ok ys) {y : β} (hy : y ∈ ys) : ∃ x ∈ xs, f x = .ok y := by
  have hall := forall₂_of_mapM_eq_ok h
  clear h
  induction hall with
  | nil => exact nomatch hy
  | @cons x y' xs ys hx _ ih =>
      rcases List.mem_cons.1 hy with rfl | hy
      · exact ⟨x, List.mem_cons_self, hx⟩
      · obtain ⟨x', hx', hf⟩ := ih hy
        exact ⟨x', List.mem_cons_of_mem x hx', hf⟩

theorem exists_of_mem_of_option_mapM_eq_ok {f : α → Except ε β} {o : Option α} {o' : Option β}
    (h : o.mapM f = .ok o') {y : β} (hy : y ∈ o') : ∃ x ∈ o, f x = .ok y := by
  cases o with
  | none =>
      obtain rfl : none = o' := Except.ok.inj h
      exact nomatch hy
  | some x =>
      obtain ⟨z, hz, rfl⟩ := map_eq_ok_iff.1 h
      obtain rfl := Option.some.inj hy
      exact ⟨x, rfl, hz⟩

theorem mapM_eq_ok_map {f : α → Except ε β} {g : α → β} {xs : List α}
    (h : ∀ x ∈ xs, f x = .ok (g x)) : xs.mapM f = .ok (xs.map g) := by
  induction xs with
  | nil => rfl
  | cons x xs ih =>
      obtain ⟨hx, hxs⟩ := List.forall_mem_cons.1 h
      rw [List.mapM_cons, hx, ih hxs]
      rfl

/-- What can be read off from each result can be read off from all of them. -/
theorem map_eq_of_mapM_eq_ok {γ : Type} {f : α → Except ε β} {g : β → γ} {k : α → γ}
    (hf : ∀ x y, f x = .ok y → g y = k x) {xs : List α} {ys : List β}
    (h : xs.mapM f = .ok ys) : ys.map g = xs.map k := by
  have hall := forall₂_of_mapM_eq_ok h
  clear h
  induction hall with
  | nil => rfl
  | cons hx _ ih => rw [List.map_cons, List.map_cons, hf _ _ hx, ih]

end Except

open Binary64

/-! Amounts as binary64 numbers. -/

/-- An amount that is not negative. -/
def Amount.Nonneg : Amount → Prop
  | .whole n => 0 ≤ n
  | .real x => 0 ≤ x

instance : (a : Amount) → Decidable a.Nonneg
  | .whole n => inferInstanceAs (Decidable (0 ≤ n))
  | .real x => inferInstanceAs (Decidable (0 ≤ x))

theorem rounded_of_ofInt? {n : Int} {x : Binary64} (h : ofInt? n = .ok x)
    (hfinite : x.IsFinite) : Rounded n x.value := by
  have hone : ¬ (1 : Int) = 0 := by decide
  rw [ofInt?, quotient?, if_neg hone] at h
  split at h
  · exact nomatch h
  · rw [← Except.ok.inj h] at hfinite ⊢
    have hround := rounded_quotient hone hfinite
    rwa [Int.cast_one, div_one] at hround

theorem Amount.nonneg_value {a : Amount} {x : Binary64} (ha : a.Nonneg) (h : a.toReal? = .ok x)
    (hfinite : x.IsFinite) : 0 ≤ x.value := by
  cases a with
  | whole n =>
      have hn : (0 : Rat) ≤ n := by exact_mod_cast (show 0 ≤ n from ha)
      exact (rounded_of_ofInt? h hfinite).nonneg hn
  | real y =>
      obtain rfl : y = x := Except.ok.inj h
      have hzero : (0 : Binary64).value = 0 := by decide +kernel
      have hnonneg := (atMost_iff (by decide +kernel) hfinite).1 ha
      rwa [hzero] at hnonneg

/-- Raising an amount raises its binary64 number up to rounding. -/
theorem Amount.abs_raise_sub_le {a : Amount} {k : Nat} {x y : Binary64} (ha : a.Nonneg)
    (hx : a.toReal? = .ok x) (hy : (a.raise k).toReal? = .ok y) (hfinite : x.IsFinite)
    (hfinite' : y.IsFinite) : |y.value - (x.value + k)| ≤ (x.value + k + 1) / 2 ^ 50 := by
  have hk : (0 : Rat) ≤ k := by positivity
  cases a with
  | whole n =>
      have hn : (0 : Rat) ≤ n := by exact_mod_cast (show 0 ≤ n from ha)
      have hsum : (0 : Rat) ≤ (n + k : Int) := by
        push_cast
        positivity
      have hplain := (rounded_of_ofInt? hx hfinite).abs_sub_le_of_abs_le (abs_of_nonneg hn).le
      have hraised := (rounded_of_ofInt? hy hfinite').abs_sub_le_of_abs_le
        (abs_of_nonneg hsum).le
      push_cast at hraised
      rw [abs_le] at hplain hraised ⊢
      constructor
      · linarith
      · linarith
  | real z =>
      obtain rfl : z = x := Except.ok.inj hx
      obtain rfl : z + quotient k 1 = y := Except.ok.inj hy
      obtain ⟨-, hquotient⟩ := isFinite_of_add hfinite'
      have hround := rounded_quotient (by decide) hquotient
      rw [Int.cast_one, div_one, Int.cast_natCast] at hround
      have hz := Amount.nonneg_value ha hx hfinite
      have haddend := hround.abs_sub_le_of_abs_le (abs_of_nonneg hk).le
      have hsum : |z.value + (quotient k 1).value| ≤ z.value + (quotient k 1).value :=
        (abs_of_nonneg (add_nonneg hz (hround.nonneg hk))).le
      have hraised := (rounded_add hfinite').abs_sub_le_of_abs_le hsum
      rw [abs_le] at haddend hraised ⊢
      constructor
      · linarith
      · linarith

end ExpectedDamage
