import ExpectedDamage.Proofs.Combat.Chance
import ExpectedDamage.Proofs.Number.Comparison
/-!
# The order of chances

However a d20 is rolled, its chance is a number of pairs of rolls out of four hundred: of all
pairs for a single roll, of those with a success for advantage, of those with two for
disadvantage. So exact chances that differ are at least `1 / 400` apart, which is far more than
the error of a binary64 chance, and binary64 chances are in the order of the pairs
(`faceChance_lt`). A single roll gives five percent for each face
(`chances_exact_and_ordered`).
-/

namespace ExpectedDamage.Combat

open Binary64

/-- The pairs of rolls that succeed, where a single roll succeeds on some faces. -/
def successPairs : Edge → Int → Int
  | .none, faces => 20 * faces
  | .advantage, faces => faces * (40 - faces)
  | .disadvantage, faces => faces * faces

/-- More faces are more pairs. -/
theorem successPairs_lt (edge : Edge) {m n : Int} (hm : 1 ≤ m) (hn : n ≤ 19) (h : m < n) :
    successPairs edge m < successPairs edge n := by
  cases edge with
  | none => exact Int.mul_lt_mul_of_pos_left h (by decide)
  | advantage =>
      have hstep : 0 < (n - m) * (40 - (n + m)) := Int.mul_pos (by omega) (by omega)
      rw [successPairs, successPairs]
      linarith
  | disadvantage =>
      have hstep : 0 < (n - m) * (n + m) := Int.mul_pos (by omega) (by omega)
      rw [successPairs, successPairs]
      linarith

theorem successPairs_bounds (edge : Edge) {n : Int} (hlow : 0 ≤ n) (hhigh : n ≤ 20) :
    0 ≤ successPairs edge n ∧ successPairs edge n ≤ 400 := by
  cases edge with
  | none =>
      rw [successPairs]
      omega
  | advantage =>
      have hboth : 0 ≤ (20 - n) * (20 - n) := Int.mul_nonneg (by omega) (by omega)
      rw [successPairs]
      exact ⟨Int.mul_nonneg hlow (by omega), by linarith⟩
  | disadvantage => exact ⟨Int.mul_nonneg hlow hlow, Int.mul_le_mul hhigh hhigh hlow (by decide)⟩

/-- A second roll that must succeed costs pairs. -/
theorem successPairs_disadvantage_lt {n : Int} (hlow : 1 ≤ n) (hhigh : n ≤ 19) :
    successPairs .disadvantage n < successPairs .none n :=
  Int.mul_lt_mul_of_pos_right (by omega) (by omega)

/-- A second roll that may succeed gives pairs. -/
theorem successPairs_lt_advantage {n : Int} (hlow : 1 ≤ n) (hhigh : n ≤ 19) :
    successPairs .none n < successPairs .advantage n := by
  rw [successPairs, successPairs, Int.mul_comm]
  exact Int.mul_lt_mul_of_pos_left (by omega) (by omega)

/-! The chance from the faces. -/

section Carrier

variable {α : Type} [Figure α]

/-- The chance of success, where a single roll succeeds on some faces. -/
def faceChance (edge : Edge) (faces : Int) : α := edge.apply (twentieths faces)

theorem faceChance_none (faces : Int) : (faceChance .none faces : α) = twentieths faces := rfl

theorem hitChance_eq (h : ReadsConstants α) (attackBonus targetArmor : Int) (edge : Edge) :
    (hitChance attackBonus targetArmor edge : α) =
      faceChance edge (hitFaces attackBonus targetArmor) := by
  rw [hitChance, singleHitChance_eq h, faceChance]

end Carrier

theorem faceChance_rat (edge : Edge) (faces : Int) :
    (faceChance edge faces : Rat) = successPairs edge faces / 400 := by
  have hone : (1.0 : Rat) = 1 := by norm_num
  rw [faceChance]
  cases edge with
  | none =>
      rw [Edge.apply, twentieths_rat, successPairs]
      push_cast
      ring
  | advantage =>
      rw [Edge.apply, hone, twentieths_rat, successPairs]
      push_cast
      ring
  | disadvantage =>
      rw [Edge.apply, twentieths_rat, successPairs]
      push_cast
      ring

theorem near_faceChance (edge : Edge) {faces : Int} (hlow : 1 ≤ faces) (hhigh : faces ≤ 19) :
    Near (faceChance edge faces) (successPairs edge faces / 400) (1 / 2 ^ 50) := by
  obtain ⟨hfinite, hbelow, habove⟩ := forall_faces
    (P := fun e n => (faceChance e n : Binary64).IsFinite ∧
      (faceChance e n : Rat) - 1 / 2 ^ 50 ≤ (faceChance e n : Binary64).value ∧
        (faceChance e n : Binary64).value ≤ (faceChance e n : Rat) + 1 / 2 ^ 50)
    (by decide +kernel) edge hlow hhigh
  rw [← faceChance_rat]
  exact ⟨hfinite, abs_sub_le_iff.2 ⟨by linarith, by linarith⟩⟩

section Order

variable {edge edge' : Edge} {m n : Int} (hm : 1 ≤ m ∧ m ≤ 19) (hn : 1 ≤ n ∧ n ≤ 19)

include hm hn

/-- Fewer pairs are a lower chance, however they are rolled. -/
theorem faceChance_lt (h : successPairs edge m < successPairs edge' n) :
    (faceChance edge m : Binary64) < faceChance edge' n := by
  have hstep : (successPairs edge m : Rat) + 1 ≤ successPairs edge' n := by exact_mod_cast h
  apply (near_faceChance edge hm.1 hm.2).lt (near_faceChance edge' hn.1 hn.2)
  linarith

theorem faceChance_le_of_lt (h : successPairs edge m < successPairs edge' n) :
    (faceChance edge m : Binary64) ≤ faceChance edge' n := by
  have hlt := faceChance_lt hm hn h
  have hfinite := (near_faceChance edge hm.1 hm.2).isFinite
  have hfinite' := (near_faceChance edge' hn.1 hn.2).isFinite
  rw [less_iff hfinite hfinite'] at hlt
  exact (atMost_iff hfinite hfinite').2 hlt.le

theorem faceChance_le_iff : (faceChance edge m : Binary64) ≤ faceChance edge n ↔ m ≤ n := by
  have hfinite := (near_faceChance edge hm.1 hm.2).isFinite
  have hfinite' := (near_faceChance edge hn.1 hn.2).isFinite
  constructor
  · intro hle
    by_contra hlt
    have hfewer := faceChance_lt hn hm (successPairs_lt edge hn.1 hm.2 (not_le.1 hlt))
    exact (not_atMost_iff hfinite' hfinite).2 hfewer hle
  · intro hle
    rcases hle.eq_or_lt with rfl | hlt
    · exact (atMost_iff hfinite hfinite).2 le_rfl
    · exact faceChance_le_of_lt hm hn (successPairs_lt edge hm.1 hn.2 hlt)

end Order

/-! Whole percents. -/

theorem percent?_twentieths {faces : Int} (hlow : 1 ≤ faces) (hhigh : faces ≤ 19) :
    percent? (.real (twentieths faces)) = .ok (5 * faces) := by
  have hnear := near_faceChance .none hlow hhigh
  have hexact : ((5 * faces : Int) / 100 : Rat) = successPairs .none faces / 400 := by
    rw [successPairs]
    push_cast
    ring
  rw [← hexact, faceChance_none] at hnear
  exact percent?_of_near hnear ⟨by omega, by omega⟩

theorem percent?_hitChance (attackBonus targetArmor : Int) :
    percent? (.real (hitChance attackBonus targetArmor .none)) =
      .ok (5 * hitFaces attackBonus targetArmor) := by
  obtain ⟨hlow, hhigh⟩ := hitFaces_bounds attackBonus targetArmor
  rw [hitChance_eq readsConstants_binary64, faceChance_none]
  exact percent?_twentieths hlow hhigh

theorem percent?_saveFailChance (difficulty saveBonus : Int) :
    percent? (.real (saveFailChance difficulty saveBonus)) =
      .ok (5 * failFaces difficulty saveBonus) := by
  obtain ⟨hlow, hhigh⟩ := failFaces_bounds difficulty saveBonus
  rw [saveFailChance_eq readsConstants_binary64]
  exact percent?_twentieths hlow hhigh

/-- An attack hits on the faces on which a saving throw with the same bonus succeeds. -/
theorem hitFaces_add_failFaces (bonus difficulty : Int) :
    hitFaces bonus difficulty + failFaces difficulty bonus = 20 := by
  rw [hitFaces, failFaces]
  omega

/-- In whole percents the chances of a single roll are exact: five for every face, between one
face and nineteen, and those of an attack and of a saving throw with the same numbers add up to
a hundred. However the die is rolled, a smaller bonus or more armor never makes a hit more
likely; disadvantage makes it no more likely and advantage no less. -/
theorem chances_exact_and_ordered {bonus bonus' armor armor' : Int} (hbonus : bonus' ≤ bonus)
    (harmor : armor ≤ armor') :
    percent? (.real (hitChance bonus armor (.ofFlags false false))) =
        .ok (5 * max 1 (min 19 (21 - (armor - bonus)))) ∧
      percent? (.real (saveFailChance armor bonus)) =
        .ok (5 * max 1 (min 19 (armor - bonus - 1))) ∧
      5 * max 1 (min 19 (21 - (armor - bonus))) + 5 * max 1 (min 19 (armor - bonus - 1)) = 100 ∧
      (∀ hasAdvantage hasDisadvantage,
        (hitChance bonus' armor' (.ofFlags hasAdvantage hasDisadvantage) : Binary64) ≤
          hitChance bonus armor (.ofFlags hasAdvantage hasDisadvantage)) ∧
      (hitChance bonus armor (.ofFlags false true) : Binary64) ≤
        hitChance bonus armor (.ofFlags false false) ∧
      (hitChance bonus armor (.ofFlags false false) : Binary64) ≤
        hitChance bonus armor (.ofFlags true false) := by
  have hfaces := hitFaces_bounds bonus armor
  have hfaces' := hitFaces_bounds bonus' armor'
  have hsum := hitFaces_add_failFaces bonus armor
  refine ⟨percent?_hitChance bonus armor, percent?_saveFailChance armor bonus, ?_, ?_, ?_, ?_⟩
  · rw [hitFaces, failFaces] at hsum
    omega
  · intro hasAdvantage hasDisadvantage
    simp only [hitChance_eq readsConstants_binary64]
    exact (faceChance_le_iff hfaces' hfaces).2 (hitFaces_le (by omega))
  · simp only [hitChance_eq readsConstants_binary64]
    exact faceChance_le_of_lt hfaces hfaces (successPairs_disadvantage_lt hfaces.1 hfaces.2)
  · simp only [hitChance_eq readsConstants_binary64]
    exact faceChance_le_of_lt hfaces hfaces (successPairs_lt_advantage hfaces.1 hfaces.2)

/-- A bonus of seven hits an armor of fifteen on thirteen faces. With advantage it is no less
likely to hit than a bonus of six is to hit five more armor. -/
theorem chances_exact_and_ordered_seven :
    (6 : Int) ≤ 7 ∧ (15 : Int) ≤ 20 ∧
      percent? (.real (hitChance 7 15 (.ofFlags false false))) = .ok 65 ∧
      percent? (.real (saveFailChance 15 7)) = .ok 35 ∧ (65 : Int) + 35 = 100 ∧
      (hitChance 6 20 (.ofFlags true false) : Binary64) ≤ hitChance 7 15 (.ofFlags true false) ∧
      (hitChance 7 15 (.ofFlags false true) : Binary64) ≤ hitChance 7 15 (.ofFlags false false) ∧
      (hitChance 7 15 (.ofFlags false false) : Binary64) ≤ hitChance 7 15 (.ofFlags true false) := by
  have hbonus : (6 : Int) ≤ 7 := by decide
  have harmor : (15 : Int) ≤ 20 := by decide
  obtain ⟨hhit, hfail, hsum, hmono, hlow, hhigh⟩ := chances_exact_and_ordered hbonus harmor
  exact ⟨hbonus, harmor, hhit, hfail, hsum, hmono true false, hlow, hhigh⟩

end ExpectedDamage.Combat
