import ExpectedDamage.Proofs.Breakpoint.PowerTrade
import ExpectedDamage.Proofs.Breakpoint.Table
/-!
# Power attacks with advantage

Advantage makes up for lost faces: of two numbers of faces, it raises the share of the damage
that the smaller one is worth by the larger factor (`hitShare_mul_le`). A power attack trades
faces for damage, so in exact arithmetic a trade that gains without advantage gains with it too
(`gain_advantage_pos`), and advantage does not lower the breakpoint of a sweep.
-/

namespace ExpectedDamage.Breakpoint

open Combat

/-! What advantage makes of the faces. -/

section Faces

variable {m n : Int} (hmn : m ≤ n)

include hmn

/-- More faces are worth a larger share. -/
theorem hitShare_advantage_le (hn : n ≤ 19) : hitShare .advantage m ≤ hitShare .advantage n := by
  have hmn : (0 : Rat) ≤ n - m := by exact_mod_cast Int.sub_nonneg_of_le hmn
  have hroom : (0 : Rat) ≤ 40 - n - m := by
    have hroom : 0 ≤ 40 - n - m := by omega
    exact_mod_cast hroom
  have hmore := mul_nonneg hmn hroom
  rw [hitShare_advantage, hitShare_advantage]
  linarith

/-- Advantage raises the share of fewer faces by a larger factor. -/
theorem hitShare_mul_le (hm : 1 ≤ m) :
    hitShare .advantage n * hitShare .none m ≤ hitShare .advantage m * hitShare .none n := by
  have hmn : (0 : Rat) ≤ n - m := by exact_mod_cast Int.sub_nonneg_of_le hmn
  have hm : (1 : Rat) ≤ m := by exact_mod_cast hm
  have hfaces : (0 : Rat) ≤ 2 * m * n + m + n - 1 := by
    have hproduct : 0 ≤ (m : Rat) * n := mul_nonneg (by linarith) (by linarith)
    linarith
  have hdifference : hitShare .advantage m * hitShare .none n -
      hitShare .advantage n * hitShare .none m =
        (n - m) * (2 * m * n + m + n - 1) / 16000 := by
    rw [hitShare_none, hitShare_none, hitShare_advantage, hitShare_advantage]
    ring
  have hnonneg := mul_nonneg hmn hfaces
  linarith

end Faces

theorem hitShare_pos {edge : Edge} (hedge : edge ≠ .disadvantage) {n : Int} (hlow : 1 ≤ n)
    (hhigh : n ≤ 19) : 0 < hitShare edge n := by
  have hlow : (1 : Rat) ≤ n := by exact_mod_cast hlow
  have hhigh : (n : Rat) ≤ 19 := by exact_mod_cast hhigh
  cases edge with
  | none =>
      rw [hitShare_none]
      linarith
  | advantage =>
      have hfaces : 0 ≤ (n : Rat) * (40 - n) := mul_nonneg (by linarith) (by linarith)
      rw [hitShare_advantage]
      linarith
  | disadvantage => exact absurd rfl hedge

/-! The gain of the trade, in exact arithmetic. -/

section Gain

variable {bonus armor : Int} {plain powered : Rat}

/-- A trade that gains without advantage gains with it. -/
theorem gain_advantage_pos (hraised : plain < powered)
    (h : 0 < gain .none bonus plain powered armor) :
    0 < gain .advantage bonus plain powered armor := by
  obtain ⟨hfew, hfew'⟩ := hitFaces_bounds (bonus - 5) armor
  have hmany := (hitFaces_bounds bonus armor).2
  have hle : hitFaces (bonus - 5) armor ≤ hitFaces bonus armor := hitFaces_le (by omega)
  rw [gain, sub_pos] at h ⊢
  generalize hitFaces (bonus - 5) armor = m at *
  generalize hitFaces bonus armor = n at *
  have hpos : 0 < hitShare .none m := hitShare_pos (by decide) hfew hfew'
  have hpos' : 0 < hitShare .advantage m := hitShare_pos (by decide) hfew hfew'
  by_cases hplain : 0 ≤ plain
  · refine lt_of_mul_lt_mul_right ?_ hpos.le
    calc hitShare .advantage n * plain * hitShare .none m
        = hitShare .advantage n * hitShare .none m * plain := by ring
      _ ≤ hitShare .advantage m * hitShare .none n * plain :=
          mul_le_mul_of_nonneg_right (hitShare_mul_le hle hfew) hplain
      _ = hitShare .advantage m * (hitShare .none n * plain) := by ring
      _ < hitShare .advantage m * (hitShare .none m * powered) := mul_lt_mul_of_pos_left h hpos'
      _ = hitShare .advantage m * powered * hitShare .none m := by ring
  · -- The faces that the power attack gives up would only have made the loss larger.
    calc hitShare .advantage n * plain
        ≤ hitShare .advantage m * plain :=
          mul_le_mul_of_nonpos_right (hitShare_advantage_le hle hmany) (not_le.1 hplain).le
      _ < hitShare .advantage m * powered := mul_lt_mul_of_pos_left hraised hpos'

end Gain

theorem expectedDamage?_plain_rat (edge : Edge) (bonus : Int) (damage : Rat) (armor : Int) :
    (Attack.plain bonus damage edge).expectedDamage? armor =
      .ok (hitShare edge (hitFaces bonus armor) * damage) := by
  rw [Attack.expectedDamage?_plain readsConstants_rat, damageAt_rat, hitShare]

/-- In exact arithmetic, the power attack has the larger expected damage. -/
def PaysExactly (edge : Edge) (bonus : Int) (damage : Rat) (armor : Int) : Prop :=
  ∃ normal powered : Rat,
    (Attack.plain bonus damage edge).expectedDamage? armor = .ok normal ∧
      (Attack.plain (bonus - 5) (damage + 10) edge).expectedDamage? armor = .ok powered ∧
        normal < powered

theorem paysExactly_iff {edge : Edge} {bonus armor : Int} {damage : Rat} :
    PaysExactly edge bonus damage armor ↔ 0 < gain edge bonus damage (damage + 10) armor := by
  rw [gain, sub_pos]
  constructor
  · rintro ⟨normal, powered, hnormal, hpowered, hlt⟩
    rw [expectedDamage?_plain_rat] at hnormal hpowered
    rwa [Except.ok.inj hnormal, Except.ok.inj hpowered]
  · intro hlt
    exact ⟨_, _, expectedDamage?_plain_rat .., expectedDamage?_plain_rat .., hlt⟩

instance (edge : Edge) (bonus : Int) (damage : Rat) (armor : Int) :
    Decidable (PaysExactly edge bonus damage armor) := decidable_of_iff _ paysExactly_iff.symm

/-- In exact arithmetic, a power attack that has the larger expected damage without advantage has
it with advantage too, whatever the damage of a hit is. So in the sweep over the armor classes,
its breakpoint with advantage is no lower than without. -/
theorem powerAttack_pays_with_advantage (bonus : Int) (damage : Rat) :
    (∀ armor, ∃ normal powered normal' powered' : Rat,
      (Attack.plain bonus damage .none).expectedDamage? armor = .ok normal ∧
      (Attack.plain (bonus - 5) (damage + 10) .none).expectedDamage? armor = .ok powered ∧
      (Attack.plain bonus damage .advantage).expectedDamage? armor = .ok normal' ∧
      (Attack.plain (bonus - 5) (damage + 10) .advantage).expectedDamage? armor = .ok powered' ∧
      (normal < powered → normal' < powered')) ∧
    ∀ t t' : Table, Sweep t (PaysExactly .none bonus damage) →
      Sweep t' (PaysExactly .advantage bonus damage) → t.breakpoint ≤ t'.breakpoint := by
  have hgain : ∀ armor, 0 < gain .none bonus damage (damage + 10) armor →
      0 < gain .advantage bonus damage (damage + 10) armor :=
    fun armor => gain_advantage_pos (by linarith)
  constructor
  · intro armor
    refine ⟨_, _, _, _, expectedDamage?_plain_rat .., expectedDamage?_plain_rat ..,
      expectedDamage?_plain_rat .., expectedDamage?_plain_rat .., ?_⟩
    have harmor := hgain armor
    rwa [gain, gain, sub_pos, sub_pos] at harmor
  · intro t t' h h'
    refine h.breakpoint_le h' fun armor hpays => ?_
    rw [paysExactly_iff] at hpays ⊢
    exact hgain armor hpays

/-- With a bonus of seven and ten damage, binary64 numbers recommend what exact arithmetic does,
up to the armor class 18 without advantage and up to 19 with it. -/
theorem powerAttack_pays_with_advantage_seven :
    ∃ t t' : Table,
      powerAttack? { bonus := 7, damage := .whole 10 } .none = .ok t ∧
      powerAttack? { bonus := 7, damage := .whole 10 } .advantage = .ok t' ∧
      Sweep t (PaysExactly .none 7 10) ∧ Sweep t' (PaysExactly .advantage 7 10) ∧
      t.breakpoint = 18 ∧ t'.breakpoint = 19 ∧ t.breakpoint ≤ t'.breakpoint := by
  have hnone : ∃ t ∈ (powerAttack? { bonus := 7, damage := .whole 10 } .none).toOption,
      Sweep t (PaysExactly .none 7 10) ∧ t.breakpoint = 18 := by decide +kernel
  have hadvantage : ∃ t ∈ (powerAttack? { bonus := 7, damage := .whole 10 } .advantage).toOption,
      Sweep t (PaysExactly .advantage 7 10) ∧ t.breakpoint = 19 := by decide +kernel
  obtain ⟨t, ht, hsweep, hlast⟩ := hnone
  obtain ⟨t', ht', hsweep', hlast'⟩ := hadvantage
  exact ⟨t, t', eq_ok_of_toOption ht, eq_ok_of_toOption ht', hsweep, hsweep', hlast, hlast',
    (powerAttack_pays_with_advantage 7 10).2 t t' hsweep hsweep'⟩

end ExpectedDamage.Breakpoint
