import ExpectedDamage.Combat.Attack
import ExpectedDamage.Proofs.Combat.ChanceOrder
/-!
# Critical hits among the hits

The expected damage of an attack counts the hits that are not critical as the hits less the
critical ones. This is a share only where the critical hits are among the hits: where the lowest
roll that is a critical hit is a hit, or is the highest face, which always hits. Against more
armor than that the share is negative (`Attack.critChance?_le_hitChance_iff`).
-/

namespace ExpectedDamage.Combat

open Binary64

attribute [local irreducible] grainsPerUnit grainLimit roundLimit significandLimit

/-- The chance of a critical hit is that of the faces of its range. -/
theorem critChance?_eq {critRange : Int} (hlow : 1 ≤ critRange) (hhigh : critRange ≤ 21)
    (edge : Edge) :
    (critChance? critRange edge : Except ArithmeticFault Binary64) =
      .ok (faceChance edge (21 - critRange)) := by
  have hlow : (1 : Rat) ≤ critRange := by exact_mod_cast hlow
  have hhigh : (critRange : Rat) ≤ 21 := by exact_mod_cast hhigh
  have hsize : |((21 - critRange : Int) / (20 : Int) : Rat)| ≤ 2 ^ 0 := by
    push_cast
    rw [abs_of_nonneg (by linarith)]
    linarith
  have hquotient : (Figure.quotient? (21 - critRange) 20 : Except ArithmeticFault Binary64) =
      .ok (twentieths (21 - critRange)) :=
    quotient?_eq_ok_iff.2 ⟨by decide, hsize.trans_lt (pow_lt_limit (by decide)),
      (twentieths_binary64 _).symm⟩
  rw [critChance?, hquotient]
  rfl

/-- The faces of a range of critical rolls hit if the lowest of them does, and the highest face
always hits. -/
theorem le_hitFaces_iff {critRange attackBonus targetArmor : Int} (hlow : 2 ≤ critRange)
    (hhigh : critRange ≤ 20) :
    21 - critRange ≤ hitFaces attackBonus targetArmor ↔
      critRange = 20 ∨ targetArmor - attackBonus ≤ critRange := by
  rw [hitFaces]
  omega

theorem within_faceChance (edge : Edge) {faces : Int} (h : 1 ≤ faces ∧ faces ≤ 19) :
    Within (faceChance edge faces) (2 ^ 1) := by
  obtain ⟨hlow, hhigh⟩ := successPairs_bounds edge (by omega) (by omega : faces ≤ 20)
  have hlow : (0 : Rat) ≤ successPairs edge faces := by exact_mod_cast hlow
  have hhigh : (successPairs edge faces : Rat) ≤ 400 := by exact_mod_cast hhigh
  have hnear := near_faceChance edge h.1 h.2
  have hexact : |(successPairs edge faces / 400 : Rat)| ≤ 1 := by
    rw [abs_of_nonneg (by positivity)]
    linarith
  exact ⟨hnear.isFinite, (hnear.abs_value_le hexact).trans (by norm_num)⟩

/-- Critical hits are no likelier than hits exactly if the lowest critical roll is the highest face
or hits. Only then the share of the other hits, by which the expected damage multiplies the
damage of a hit, is not negative. -/
theorem Attack.critChance?_le_hitChance_iff (a : Attack Binary64) (hlow : 2 ≤ a.critRange)
    (hhigh : a.critRange ≤ 20) (armor : Int) :
    ∃ crit share : Binary64, critChance? a.critRange a.edge = .ok crit ∧
      share = hitChance a.bonus armor a.edge - crit ∧
      a.expectedDamage? armor = (Figure.ofInt? a.critDice).map (fun dice =>
        share * a.damage + crit * (a.damage * 1.5 + dice * 3.5 + a.critDamage)) ∧
      (crit ≤ hitChance a.bonus armor a.edge ↔
        a.critRange = 20 ∨ armor - a.bonus ≤ a.critRange) ∧
      (0 ≤ share ↔ a.critRange = 20 ∨ armor - a.bonus ≤ a.critRange) := by
  have hfaces := hitFaces_bounds a.bonus armor
  have hcrit : 1 ≤ 21 - a.critRange ∧ 21 - a.critRange ≤ 19 := by omega
  have hchance : critChance? a.critRange a.edge =
      .ok (faceChance a.edge (21 - a.critRange) : Binary64) :=
    critChance?_eq (by omega) (by omega) a.edge
  have hiff : (faceChance a.edge (21 - a.critRange) : Binary64) ≤ hitChance a.bonus armor a.edge ↔
      a.critRange = 20 ∨ armor - a.bonus ≤ a.critRange := by
    rw [hitChance_eq readsConstants_binary64, faceChance_le_iff hcrit hfaces,
      le_hitFaces_iff hlow hhigh]
  have hdifference : (faceChance a.edge (hitFaces a.bonus armor) -
      faceChance a.edge (21 - a.critRange) : Binary64).IsFinite :=
    ((within_faceChance a.edge hfaces).sub_pow (within_faceChance a.edge hcrit)
      (by decide)).isFinite
  refine ⟨_, _, hchance, rfl, ?_, hiff, ?_⟩
  · rw [Attack.expectedDamage?, hchance]
    cases (Figure.ofInt? a.critDice : Except ArithmeticFault Binary64) <;> rfl
  · rw [← hiff, hitChance_eq readsConstants_binary64]
    exact sub_nonneg_iff (near_faceChance _ hfaces.1 hfaces.2).isFinite
      (near_faceChance _ hcrit.1 hcrit.2).isFinite hdifference

/-- Two critical faces, against armor that both of them hit and against armor that only one of
them hits. -/
theorem Attack.critChance?_le_hitChance_iff_two_faces :
    let a : Attack Binary64 := ⟨5, 10, .advantage, 19, 0, 0⟩
    2 ≤ a.critRange ∧ a.critRange ≤ 20 ∧
      ∃ crit : Binary64, critChance? 19 .advantage = .ok crit ∧
        crit ≤ hitChance 5 24 .advantage ∧ 0 ≤ hitChance 5 24 .advantage - crit ∧
        ¬ crit ≤ hitChance 5 25 .advantage ∧ ¬ 0 ≤ hitChance 5 25 .advantage - crit := by
  intro a
  have hlow : 2 ≤ a.critRange := by decide
  have hhigh : a.critRange ≤ 20 := by decide
  obtain ⟨crit, _, hcrit, rfl, -, hle, hshare⟩ := a.critChance?_le_hitChance_iff hlow hhigh 24
  obtain ⟨crit', _, hcrit', rfl, -, hle', hshare'⟩ := a.critChance?_le_hitChance_iff hlow hhigh 25
  obtain rfl : crit = crit' := Except.ok.inj (hcrit.symm.trans hcrit')
  have hhits : a.critRange = 20 ∨ 24 - a.bonus ≤ a.critRange := by decide
  have hmisses : ¬ (a.critRange = 20 ∨ 25 - a.bonus ≤ a.critRange) := by decide
  exact ⟨hlow, hhigh, crit, hcrit, hle.2 hhits, hshare.2 hhits, fun h => hmisses (hle'.1 h),
    fun h => hmisses (hshare'.1 h)⟩

end ExpectedDamage.Combat
