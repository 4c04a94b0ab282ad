import ExpectedDamage.Combat.Chance
import ExpectedDamage.Proofs.Number.RoundingError
/-!
# Chances as faces of the die

A single attack roll hits with `hitFaces` of the twenty faces, a saving throw fails with
`failFaces` of them, and from these the chances follow. The two carriers differ only in how
they round: over the rationals a chance is exact, and in binary64 numbers it is off by at
most `2 ^ (-50)` (`near_plainShare`).
-/

namespace ExpectedDamage.Combat

/-- The faces of the die with which a single attack roll hits. -/
def hitFaces (attackBonus targetArmor : Int) : Int :=
  max 1 (min 19 (21 - (targetArmor - attackBonus)))

theorem hitFaces_bounds (attackBonus targetArmor : Int) :
    1 ≤ hitFaces attackBonus targetArmor ∧ hitFaces attackBonus targetArmor ≤ 19 := by
  rw [hitFaces]
  omega

/-- One more armor costs a face, except where all but one face or only one face hits. -/
theorem hitFaces_eq_succ_add_one {attackBonus targetArmor : Int}
    (hlow : 2 ≤ targetArmor - attackBonus) (hhigh : targetArmor - attackBonus < 20) :
    hitFaces attackBonus targetArmor = hitFaces attackBonus (targetArmor + 1) + 1 := by
  rw [hitFaces, hitFaces]
  omega

theorem hitFaces_succ_of_clamped {attackBonus targetArmor : Int}
    (h : targetArmor - attackBonus < 2 ∨ 20 ≤ targetArmor - attackBonus) :
    hitFaces attackBonus (targetArmor + 1) = hitFaces attackBonus targetArmor := by
  rw [hitFaces, hitFaces]
  omega

theorem hitFaces_sub_five {attackBonus targetArmor : Int}
    (hlow : 2 ≤ targetArmor - attackBonus) (hhigh : targetArmor - attackBonus ≤ 15) :
    hitFaces (attackBonus - 5) targetArmor = hitFaces attackBonus targetArmor - 5 := by
  rw [hitFaces, hitFaces]
  omega

theorem hitFaces_le {attackBonus targetArmor attackBonus' targetArmor' : Int}
    (h : targetArmor - attackBonus ≤ targetArmor' - attackBonus') :
    hitFaces attackBonus' targetArmor' ≤ hitFaces attackBonus targetArmor := by
  rw [hitFaces, hitFaces]
  omega

/-- The faces of the die with which a saving throw fails. -/
def failFaces (difficulty saveBonus : Int) : Int := max 1 (min 19 (difficulty - saveBonus - 1))

theorem failFaces_bounds (difficulty saveBonus : Int) :
    1 ≤ failFaces difficulty saveBonus ∧ failFaces difficulty saveBonus ≤ 19 := by
  rw [failFaces]
  omega

theorem failFaces_le {difficulty saveBonus difficulty' saveBonus' : Int}
    (h : difficulty' - saveBonus' ≤ difficulty - saveBonus) :
    failFaces difficulty' saveBonus' ≤ failFaces difficulty saveBonus := by
  rw [failFaces, failFaces]
  omega

/-- What a carrier must know of the constants in the formulas. -/
structure ReadsConstants (α : Type) [Figure α] : Prop where
  low : (0.05 : α) = twentieths 1
  high : (0.95 : α) = twentieths 19
  crit : Figure.overflowed (twentieths 1 : α) = false
  zero : Figure.overflowed (Figure.quotient 0 1 : α) = false

theorem readsConstants_rat : ReadsConstants Rat where
  low := by decide +kernel
  high := by decide +kernel
  crit := rfl
  zero := rfl

theorem readsConstants_binary64 : ReadsConstants Binary64 where
  low := by decide +kernel
  high := by decide +kernel
  crit := by decide +kernel
  zero := by decide +kernel

section Carrier

variable {α : Type} [Figure α]

theorem singleHitChance_eq (h : ReadsConstants α) (attackBonus targetArmor : Int) :
    (singleHitChance attackBonus targetArmor : α) =
      twentieths (hitFaces attackBonus targetArmor) := by
  rw [singleHitChance, hitFaces]
  generalize targetArmor - attackBonus = needed
  by_cases hlow : needed ≤ 1
  · have hfaces : max 1 (min 19 (21 - needed)) = 19 := by omega
    rw [if_pos hlow, hfaces, h.high]
  · by_cases hhigh : 20 ≤ needed
    · have hfaces : max 1 (min 19 (21 - needed)) = 1 := by omega
      rw [if_neg hlow, if_pos hhigh, hfaces, h.low]
    · have hfaces : max 1 (min 19 (21 - needed)) = 21 - needed := by omega
      rw [if_neg hlow, if_neg hhigh, hfaces]

theorem saveFailChance_eq (h : ReadsConstants α) (difficulty saveBonus : Int) :
    (saveFailChance difficulty saveBonus : α) = twentieths (failFaces difficulty saveBonus) := by
  rw [saveFailChance, failFaces]
  generalize difficulty - saveBonus = needed
  by_cases hlow : needed ≤ 1
  · have hfaces : max 1 (min 19 (needed - 1)) = 1 := by omega
    rw [if_pos hlow, hfaces, h.low]
  · by_cases hhigh : 20 ≤ needed
    · have hfaces : max 1 (min 19 (needed - 1)) = 19 := by omega
      rw [if_neg hlow, if_pos hhigh, hfaces, h.high]
    · have hfaces : max 1 (min 19 (needed - 1)) = needed - 1 := by omega
      rw [if_neg hlow, if_neg hhigh, hfaces]

/-- The chance of a critical hit, on the highest face only. -/
def critShare (edge : Edge) : α := edge.apply (twentieths 1)

/-- The chance of a hit that is not critical, from the faces that hit. -/
def plainShare (edge : Edge) (faces : Int) : α := edge.apply (twentieths faces) - critShare edge

theorem critChance?_twenty (h : ReadsConstants α) (edge : Edge) :
    (critChance? 20 edge : Except ArithmeticFault α) = .ok (critShare edge) := by
  have hzero : ¬ (20 : Int) = 0 := by decide
  have hcrit : ¬ Figure.overflowed (Figure.quotient (21 - 20) 20 : α) = true := by
    have hcrit := h.crit
    rw [twentieths] at hcrit
    simpa using hcrit
  rw [critChance?, Figure.quotient?, if_neg hzero, if_neg hcrit]
  rfl

end Carrier

/-! The chances over the rationals. -/

theorem twentieths_rat (n : Int) : (twentieths n : Rat) = n / 20 := Rat.divInt_eq_div n 20

theorem critShare_none : (critShare .none : Rat) = 1 / 20 := by decide +kernel

theorem critShare_advantage : (critShare .advantage : Rat) = 39 / 400 := by decide +kernel

theorem plainShare_none (faces : Int) : (plainShare .none faces : Rat) = (faces - 1) / 20 := by
  have h : (plainShare .none faces : Rat) = twentieths faces - critShare .none := rfl
  rw [h, twentieths_rat, critShare_none]
  ring

theorem plainShare_advantage (faces : Int) :
    (plainShare .advantage faces : Rat) = (faces - 1) * (39 - faces) / 400 := by
  have hone : (1.0 : Rat) = 1 := by norm_num
  have h : (plainShare .advantage faces : Rat) =
      1.0 - (1.0 - twentieths faces) * (1.0 - twentieths faces) - critShare .advantage := rfl
  rw [h, hone, twentieths_rat, critShare_advantage]
  ring

/-! The chances in binary64 numbers. -/

theorem twentieths_binary64 (n : Int) : (twentieths n : Binary64) = Binary64.quotient n 20 := by
  rw [twentieths]
  rfl

/-- What holds of every way to roll and of the nineteen numbers of faces holds of every
chance. -/
theorem forall_faces {P : Edge → Int → Prop}
    (h : ∀ edge ∈ [Edge.none, .advantage, .disadvantage], ∀ n < 19, P edge (n + 1 : Nat))
    (edge : Edge) {faces : Int} (hlow : 1 ≤ faces) (hhigh : faces ≤ 19) : P edge faces := by
  have hedge : edge ∈ [Edge.none, .advantage, .disadvantage] := by cases edge <;> decide
  have hfaces := h edge hedge (faces - 1).toNat (by omega)
  have hcast : (((faces - 1).toNat + 1 : Nat) : Int) = faces := by omega
  rwa [hcast] at hfaces

theorem plainShare_bounds (edge : Edge) {faces : Int} (hlow : 1 ≤ faces) (hhigh : faces ≤ 19) :
    0 ≤ (plainShare edge faces : Rat) ∧ (plainShare edge faces : Rat) ≤ 1 :=
  forall_faces (P := fun e n => 0 ≤ (plainShare e n : Rat) ∧ (plainShare e n : Rat) ≤ 1)
    (by decide +kernel) edge hlow hhigh

theorem critShare_bounds (edge : Edge) :
    0 ≤ (critShare edge : Rat) ∧ (critShare edge : Rat) ≤ 1 := by
  cases edge <;> decide +kernel

theorem near_plainShare (edge : Edge) {faces : Int} (hlow : 1 ≤ faces) (hhigh : faces ≤ 19) :
    Binary64.Near (plainShare edge faces) (plainShare edge faces) (1 / 2 ^ 50) := by
  obtain ⟨hfinite, hbelow, habove⟩ := forall_faces
    (P := fun e n => (plainShare e n : Binary64).IsFinite ∧
      (plainShare e n : Rat) - 1 / 2 ^ 50 ≤ (plainShare e n : Binary64).value ∧
        (plainShare e n : Binary64).value ≤ (plainShare e n : Rat) + 1 / 2 ^ 50)
    (by decide +kernel) edge hlow hhigh
  exact ⟨hfinite, abs_sub_le_iff.2 ⟨by linarith, by linarith⟩⟩

theorem near_critShare (edge : Edge) :
    Binary64.Near (critShare edge) (critShare edge) (1 / 2 ^ 50) := by
  have hcheck : (critShare edge : Binary64).IsFinite ∧
      (critShare edge : Rat) - 1 / 2 ^ 50 ≤ (critShare edge : Binary64).value ∧
        (critShare edge : Binary64).value ≤ (critShare edge : Rat) + 1 / 2 ^ 50 := by
    cases edge <;> decide +kernel
  obtain ⟨hfinite, hbelow, habove⟩ := hcheck
  exact ⟨hfinite, abs_sub_le_iff.2 ⟨by linarith, by linarith⟩⟩

end ExpectedDamage.Combat
