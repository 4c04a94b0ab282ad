import ExpectedDamage.Breakpoint.Sweep
import ExpectedDamage.Proofs.Number.Range
/-!
# The breakpoint of a table

The breakpoint of a table is the highest recommended armor class, so what is advised up to
the breakpoint is right exactly if nothing is recommended above a class that is not
(`advised_iff`). Where the recommendations have a valley, in which they can only end going
down to its bottom and only begin going up from it, two classes decide that: the bottom and
the last one of the sweep (`advised_iff_of_valley`).
-/

namespace ExpectedDamage.Breakpoint

namespace Table

/-- Everything up to the breakpoint is recommended. -/
def Advised (t : Table) : Prop :=
  ∀ row ∈ t.rows, row.armor ≤ t.breakpoint → row.recommended = true

/-- The option is recommended at an armor class of the table. -/
def Recommends (t : Table) (armor : Int) : Prop :=
  ∃ row ∈ t.rows, row.armor = armor ∧ row.recommended = true

instance (t : Table) (armor : Int) : Decidable (t.Recommends armor) :=
  inferInstanceAs (Decidable (∃ row ∈ t.rows, _ ∧ _))

/-- The rows ascend. -/
def Ascending (t : Table) : Prop := t.rows.Pairwise fun r s => r.armor < s.armor

theorem breakpoint_eq_zero {t : Table} (h : ∀ armor, ¬ t.Recommends armor) :
    t.breakpoint = 0 := by
  have hnone : t.rows.filter Row.recommended = [] := by
    rw [List.filter_eq_nil_iff]
    exact fun row hrow hrecommended => h row.armor ⟨row, hrow, rfl, hrecommended⟩
  rw [breakpoint, hnone]
  rfl

/-- The breakpoint is recommended, and nothing above it is. -/
theorem breakpoint_spec {t : Table} (hascending : t.Ascending) {armor : Int}
    (h : t.Recommends armor) : t.Recommends t.breakpoint ∧ armor ≤ t.breakpoint := by
  obtain ⟨row, hrow, rfl, hrecommended⟩ := h
  have hmem : row ∈ t.rows.filter Row.recommended := List.mem_filter.2 ⟨hrow, hrecommended⟩
  rcases List.eq_nil_or_concat (t.rows.filter Row.recommended) with hnil | ⟨init, last, hlast⟩
  · rw [hnil] at hmem
    exact nomatch hmem
  · rw [List.concat_eq_append] at hlast
    have hbreakpoint : t.breakpoint = last.armor := by
      rw [breakpoint, hlast]
      simp
    have hfiltered : last ∈ t.rows.filter Row.recommended := by
      rw [hlast]
      simp
    obtain ⟨hlastMem, hlastRecommended⟩ := List.mem_filter.1 hfiltered
    have hsorted : (init ++ [last]).Pairwise fun r s => r.armor < s.armor :=
      hlast ▸ hascending.filter Row.recommended
    rw [hbreakpoint]
    refine ⟨⟨last, hlastMem, rfl, hlastRecommended⟩, ?_⟩
    rw [hlast, List.mem_append, List.mem_singleton] at hmem
    rcases hmem with hinit | rfl
    · exact ((List.pairwise_append.1 hsorted).2.2 row hinit last (List.mem_singleton_self _)).le
    · exact le_refl _

/-- The advice is right exactly if the recommendations are closed downwards. -/
theorem advised_iff {t : Table} (hascending : t.Ascending)
    (hpositive : ∀ row ∈ t.rows, 0 < row.armor) :
    t.Advised ↔ ∀ row ∈ t.rows, ∀ armor, t.Recommends armor → row.armor ≤ armor →
      row.recommended = true := by
  constructor
  · intro h row hrow armor harmor hle
    exact h row hrow (hle.trans (breakpoint_spec hascending harmor).2)
  · intro h row hrow hle
    by_cases hany : ∃ armor, t.Recommends armor
    · obtain ⟨armor, harmor⟩ := hany
      exact h row hrow t.breakpoint (breakpoint_spec hascending harmor).1 hle
    · rw [breakpoint_eq_zero (not_exists.1 hany)] at hle
      exact absurd (hpositive row hrow) (not_lt.2 hle)

end Table

/-! The table of a sweep. -/

theorem mem_armorClasses {armor : Int} : armor ∈ armorClasses ↔ 10 ≤ armor ∧ armor ≤ 25 := by
  rw [armorClasses, List.mem_map]
  constructor
  · rintro ⟨i, hi, rfl⟩
    rw [List.mem_range] at hi
    omega
  · intro h
    exact ⟨(armor - 10).toNat, by rw [List.mem_range]; omega, by omega⟩

/-- The table of a sweep, in which the option is recommended where it pays. -/
structure Sweep (t : Table) (pays : Int → Prop) : Prop where
  map_armor : t.rows.map Row.armor = armorClasses
  recommended_iff (row : Row) (hrow : row ∈ t.rows) :
    row.recommended = true ↔ pays row.armor

namespace Sweep

variable {t : Table} {pays : Int → Prop}

instance [DecidablePred pays] : Decidable (Sweep t pays) :=
  decidable_of_iff (t.rows.map Row.armor = armorClasses ∧
      ∀ row ∈ t.rows, row.recommended = true ↔ pays row.armor)
    ⟨fun h => ⟨h.1, h.2⟩, fun h => ⟨h.map_armor, h.recommended_iff⟩⟩

theorem armor_mem (h : Sweep t pays) {row : Row} (hrow : row ∈ t.rows) :
    10 ≤ row.armor ∧ row.armor ≤ 25 := by
  rw [← mem_armorClasses, ← h.map_armor]
  exact List.mem_map_of_mem hrow

theorem exists_row (h : Sweep t pays) {armor : Int} (hlow : 10 ≤ armor) (hhigh : armor ≤ 25) :
    ∃ row ∈ t.rows, row.armor = armor := by
  have hmem : armor ∈ t.rows.map Row.armor := by
    rw [h.map_armor]
    exact mem_armorClasses.2 ⟨hlow, hhigh⟩
  exact List.mem_map.1 hmem

theorem recommends_iff (h : Sweep t pays) {armor : Int} (hlow : 10 ≤ armor)
    (hhigh : armor ≤ 25) : t.Recommends armor ↔ pays armor := by
  constructor
  · rintro ⟨row, hrow, rfl, hrecommended⟩
    exact (h.recommended_iff row hrow).1 hrecommended
  · intro hpays
    obtain ⟨row, hrow, rfl⟩ := h.exists_row hlow hhigh
    exact ⟨row, hrow, rfl, (h.recommended_iff row hrow).2 hpays⟩

theorem ascending (h : Sweep t pays) : t.Ascending := by
  have hclasses : armorClasses.Pairwise (· < ·) := by decide
  rw [← h.map_armor, List.pairwise_map] at hclasses
  exact hclasses

theorem advised_iff (h : Sweep t pays) :
    t.Advised ↔ ∀ a b, 10 ≤ a → a ≤ b → b ≤ 25 → pays b → pays a := by
  have hpositive : ∀ row ∈ t.rows, 0 < row.armor := fun row hrow => by
    have harmor := h.armor_mem hrow
    omega
  rw [Table.advised_iff h.ascending hpositive]
  constructor
  · intro hclosed a b hlow hle hhigh hb
    obtain ⟨row, hrow, rfl⟩ := h.exists_row hlow (hle.trans hhigh)
    have hrecommends := (h.recommends_iff (hlow.trans hle) hhigh).2 hb
    exact (h.recommended_iff row hrow).1 (hclosed row hrow b hrecommends hle)
  · rintro hclosed row hrow armor ⟨other, hother, rfl, hrecommended⟩ hle
    have hpays := (h.recommended_iff other hother).1 hrecommended
    exact (h.recommended_iff row hrow).2 (hclosed row.armor other.armor (h.armor_mem hrow).1 hle
      (h.armor_mem hother).2 hpays)

/-- The breakpoint is one of the armor classes, unless nothing pays. -/
theorem breakpoint_cases (h : Sweep t pays) :
    t.breakpoint = 0 ∨ (10 ≤ t.breakpoint ∧ t.breakpoint ≤ 25 ∧ pays t.breakpoint) := by
  by_cases hany : ∃ armor, t.Recommends armor
  · obtain ⟨armor, harmor⟩ := hany
    obtain ⟨row, hrow, heq, hrecommended⟩ := (Table.breakpoint_spec h.ascending harmor).1
    have hbounds := h.armor_mem hrow
    have hpays := (h.recommended_iff row hrow).1 hrecommended
    rw [heq] at hbounds hpays
    exact .inr ⟨hbounds.1, hbounds.2, hpays⟩
  · exact .inl (Table.breakpoint_eq_zero (not_exists.1 hany))

/-- What pays at more armor classes has no lower breakpoint. -/
theorem breakpoint_le {t' : Table} {pays' : Int → Prop} (h : Sweep t pays)
    (h' : Sweep t' pays') (himp : ∀ armor, pays armor → pays' armor) :
    t.breakpoint ≤ t'.breakpoint := by
  rcases h.breakpoint_cases with hzero | ⟨hlow, hhigh, hpays⟩
  · rcases h'.breakpoint_cases with hzero' | ⟨hlow', -, -⟩
    · rw [hzero, hzero']
    · omega
  · have hrecommends := (h'.recommends_iff hlow hhigh).2 (himp _ hpays)
    exact (Table.breakpoint_spec h'.ascending hrecommends).2

end Sweep

/-! Recommendations with a valley. -/

/-- Below the bottom, what pays also pays one class lower, and from the bottom on also one
class higher. -/
structure Valley (pays : Int → Prop) (bottom : Int) : Prop where
  down (armor : Int) : 10 ≤ armor → armor < 25 → armor < bottom → pays (armor + 1) → pays armor
  up (armor : Int) : 10 ≤ armor → armor < 25 → bottom ≤ armor → pays armor → pays (armor + 1)

namespace Valley

variable {pays : Int → Prop} {bottom : Int}

theorem pays_of_le (h : Valley pays bottom) {a b : Int} (hlow : 10 ≤ a) (hle : a ≤ b)
    (hhigh : b ≤ 25) (hbottom : b ≤ bottom) (hb : pays b) : pays a := by
  obtain ⟨k, rfl⟩ := Int.le.dest hle
  induction k with
  | zero => simpa using hb
  | succ k ih =>
      have hstep : pays (a + k) :=
        h.down (a + k) (by omega) (by omega) (by omega) (by
          rwa [Nat.cast_succ, ← add_assoc] at hb)
      exact ih (by omega) (by omega) (by omega) hstep

theorem pays_of_ge (h : Valley pays bottom) {a b : Int} (hlow : 10 ≤ a) (hle : a ≤ b)
    (hhigh : b ≤ 25) (hbottom : bottom ≤ a) (ha : pays a) : pays b := by
  obtain ⟨k, rfl⟩ := Int.le.dest hle
  induction k with
  | zero => simpa using ha
  | succ k ih =>
      have hstep : pays (a + k) := ih (by omega) (by omega)
      have hnext := h.up (a + k) (by omega) (by omega) (by omega) hstep
      rwa [Nat.cast_succ, ← add_assoc]

/-- What pays is closed downwards exactly if the bottom lies above the sweep, or the last
class does not pay, or the bottom does. -/
theorem closed_iff (h : Valley pays bottom) :
    (∀ a b, 10 ≤ a → a ≤ b → b ≤ 25 → pays b → pays a) ↔
      25 ≤ bottom ∨ ¬ pays 25 ∨ pays (max 10 bottom) := by
  constructor
  · intro hclosed
    by_cases hbottom : 25 ≤ bottom
    · exact Or.inl hbottom
    · by_cases hlast : pays 25
      · exact Or.inr (Or.inr (hclosed _ 25 (by omega) (by omega) (by omega) hlast))
      · exact Or.inr (Or.inl hlast)
  · intro hcases a b hlow hle hhigh hb
    by_cases hbottom : b ≤ bottom
    · exact h.pays_of_le hlow hle hhigh hbottom hb
    · rcases hcases with habove | hlast | hdeepest
      · omega
      · exact absurd (h.pays_of_ge (by omega) hhigh (by omega) (by omega) hb) hlast
      · by_cases ha : max 10 bottom ≤ a
        · exact h.pays_of_ge (by omega) ha (by omega) (by omega) hdeepest
        · exact h.pays_of_le hlow (by omega) (by omega) (by omega) hdeepest

end Valley

/-- The advice of a sweep with a valley is right exactly if the bottom lies above the sweep,
or the last class is not recommended, or the bottom is. -/
theorem Sweep.advised_iff_of_valley {t : Table} {pays : Int → Prop} {bottom : Int}
    (h : Sweep t pays) (hvalley : Valley pays bottom) :
    t.Advised ↔ 25 ≤ bottom ∨ ¬ t.Recommends 25 ∨ t.Recommends (max 10 bottom) := by
  rw [h.advised_iff, hvalley.closed_iff, h.recommends_iff (by decide) (by decide)]
  by_cases hbottom : bottom ≤ 25
  · rw [h.recommends_iff (by omega) (by omega)]
  · have habove : 25 ≤ bottom := by omega
    simp [habove]

end ExpectedDamage.Breakpoint
