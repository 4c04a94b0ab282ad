import ExpectedDamage.Combat.Attack
import ExpectedDamage.Proofs.Combat.Chance
/-!
# The expected damage of a plain attack

An attack without any extra on a critical hit does damage that depends only on how it is
rolled, on the faces that hit and on the damage of a hit. Over the rationals this is the
damage times a share (`damageAt_rat`), and the binary64 number is off by at most
`2 ^ (-46)` of the damage and one (`near_damageAt`).
-/

namespace ExpectedDamage.Combat

section Carrier

variable {α : Type} [Figure α]

/-- An attack whose critical hits have no extra dice or damage. -/
def Attack.plain (bonus : Int) (damage : α) (edge : Edge) : Attack α where
  bonus := bonus
  damage := damage
  edge := edge
  critDamage := Figure.quotient 0 1

/-- The damage of a critical hit without any extra. -/
def critDamage (damage : α) : α :=
  damage * 1.5 + Figure.quotient 0 1 * 3.5 + Figure.quotient 0 1

/-- The expected damage from the faces that hit. -/
def damageAt (edge : Edge) (faces : Int) (damage : α) : α :=
  plainShare edge faces * damage + critShare edge * critDamage damage

theorem Attack.expectedDamage?_plain (h : ReadsConstants α) (bonus : Int) (damage : α)
    (edge : Edge) (armor : Int) :
    (Attack.plain bonus damage edge).expectedDamage? armor =
      .ok (damageAt edge (hitFaces bonus armor) damage) := by
  have hdice : (Figure.ofInt? 0 : Except ArithmeticFault α) = .ok (Figure.quotient 0 1) := by
    have hzero : ¬ (1 : Int) = 0 := by decide
    rw [Figure.ofInt?, Figure.quotient?, if_neg hzero, h.zero, if_neg Bool.false_ne_true]
  have hcrit := critChance?_twenty h edge
  rw [Attack.expectedDamage?]
  simp only [Attack.plain, hcrit, hdice, hitChance, singleHitChance_eq h]
  rfl

end Carrier

/-! Over the rationals. -/

theorem critDamage_rat (damage : Rat) : critDamage damage = 3 / 2 * damage := by
  have hhalf : (1.5 : Rat) = 3 / 2 := by norm_num
  have hzero : (Figure.quotient 0 1 : Rat) = 0 := by decide +kernel
  have h : critDamage damage =
      damage * 1.5 + Figure.quotient 0 1 * 3.5 + Figure.quotient 0 1 := rfl
  rw [h, hhalf, hzero]
  ring

theorem damageAt_rat (edge : Edge) (faces : Int) (damage : Rat) :
    damageAt edge faces damage = (plainShare edge faces + 3 / 2 * critShare edge) * damage := by
  have h : damageAt edge faces damage =
      plainShare edge faces * damage + critShare edge * critDamage damage := rfl
  rw [h, critDamage_rat]
  ring

/-! In binary64 numbers. -/

open Binary64

theorem isFinite_of_damageAt {edge : Edge} {faces : Int} {x : Binary64}
    (h : (damageAt edge faces x).IsFinite) : x.IsFinite := by
  have hsum : (plainShare edge faces * x + critShare edge * critDamage x).IsFinite := h
  exact (isFinite_of_mul (isFinite_of_add hsum).1).2

theorem near_const {x : Binary64} {q : Rat} (h : x.IsFinite) (hvalue : x.value = q) :
    Near x q 0 := hvalue ▸ Near.refl h

theorem abs_le_one_of_bounds {q : Rat} (h : 0 ≤ q ∧ q ≤ 1) : |q| ≤ 1 := by
  rw [abs_of_nonneg h.1]
  exact h.2

theorem near_critDamage {x : Binary64} (hx : 0 ≤ x.value) (h : (critDamage x).IsFinite) :
    Near (critDamage x) (critDamage x.value) ((x.value + 1) / 2 ^ 49) := by
  have hsum : (x * 1.5 + Figure.quotient 0 1 * 3.5 + Figure.quotient 0 1 : Binary64).IsFinite := h
  obtain ⟨hdice, hzero⟩ := isFinite_of_add hsum
  obtain ⟨hhalf, hnone⟩ := isFinite_of_add hdice
  obtain ⟨hfinite, -⟩ := isFinite_of_mul hhalf
  generalize hb : x.value = b at *
  have hdamage : |b| ≤ b := (abs_of_nonneg hx).le
  have hraised : |b * (3 / 2)| ≤ b * (3 / 2) := (abs_of_nonneg (by positivity)).le
  have nearSelf : Near x b 0 := near_const hfinite hb
  have nearFactor : Near 1.5 (3 / 2) 0 := near_const (by decide +kernel) (by decide +kernel)
  have nearDie : Near 3.5 (7 / 2) 0 := near_const (by decide +kernel) (by decide +kernel)
  have nearZero : Near (Figure.quotient 0 1) 0 0 :=
    near_const (by decide +kernel) (by decide +kernel)
  have nearHalf : Near (x * 1.5) (b * (3 / 2)) ((b + 1) / 2 ^ 52) :=
    (nearSelf.mul nearFactor hdamage (abs_of_pos (by norm_num)).le hhalf).mono (by linarith)
  have nearNone : Near (Figure.quotient 0 1 * 3.5) (0 * (7 / 2)) (1 / 2 ^ 53) :=
    (nearZero.mul nearDie abs_zero.le (abs_of_pos (by norm_num)).le hnone).mono (by linarith)
  have hnothing : |(0 * (7 / 2) : Rat)| ≤ 0 := by norm_num
  have nearDice : Near (x * 1.5 + Figure.quotient 0 1 * 3.5) (b * (3 / 2) + 0 * (7 / 2))
      ((b + 1) / 2 ^ 50) :=
    (nearHalf.add nearNone hraised hnothing hdice).mono (by linarith)
  have hdiceExact : |b * (3 / 2) + 0 * (7 / 2)| ≤ b * (3 / 2) := by
    rw [zero_mul, add_zero]
    exact hraised
  have hexact : critDamage b = b * (3 / 2) + 0 * (7 / 2) + 0 := by
    rw [critDamage_rat]
    ring
  rw [hexact]
  exact (nearDice.add nearZero hdiceExact abs_zero.le hsum).mono (by linarith)

/-- The expected damage in binary64 numbers is off by at most `2 ^ (-46)` of the damage of
a hit and one. -/
theorem near_damageAt (edge : Edge) {faces : Int} (hlow : 1 ≤ faces) (hhigh : faces ≤ 19)
    {x : Binary64} (hx : 0 ≤ x.value) (h : (damageAt edge faces x).IsFinite) :
    Near (damageAt edge faces x) (damageAt edge faces x.value) ((x.value + 1) / 2 ^ 46) := by
  have hsum : (plainShare edge faces * x + critShare edge * critDamage x).IsFinite := h
  obtain ⟨hhit, hcritical⟩ := isFinite_of_add hsum
  obtain ⟨-, hfinite⟩ := isFinite_of_mul hhit
  obtain ⟨-, hraised⟩ := isFinite_of_mul hcritical
  have nearRaised := near_critDamage hx hraised
  have hshare := abs_le_one_of_bounds (plainShare_bounds edge hlow hhigh)
  have hcrit := abs_le_one_of_bounds (critShare_bounds edge)
  generalize hb : x.value = b at *
  have hdamage : |b| ≤ b := (abs_of_nonneg hx).le
  have hcritDamage : |critDamage b| ≤ 3 / 2 * b := by
    rw [critDamage_rat]
    exact (abs_of_nonneg (by positivity)).le
  have nearHit : Near (plainShare edge faces * x) (plainShare edge faces * b)
      ((b + 1) / 2 ^ 49) :=
    ((near_plainShare edge hlow hhigh).mul (near_const hfinite hb) hshare hdamage hhit).mono
      (by linarith)
  have nearCritical : Near (critShare edge * critDamage x) (critShare edge * critDamage b)
      ((b + 1) / 2 ^ 48) :=
    ((near_critShare edge).mul nearRaised hcrit hcritDamage hcritical).mono (by linarith)
  have hhitExact : |plainShare edge faces * b| ≤ 1 * b := by
    rw [abs_mul]
    exact mul_le_mul hshare hdamage (abs_nonneg b) zero_le_one
  have hcriticalExact : |critShare edge * critDamage b| ≤ 1 * (3 / 2 * b) := by
    rw [abs_mul]
    exact mul_le_mul hcrit hcritDamage (abs_nonneg _) zero_le_one
  exact (nearHit.add nearCritical hhitExact hcriticalExact hsum).mono (by linarith)

end ExpectedDamage.Combat
