import ExpectedDamage.Proofs.Combat.ExpectedDamage
/-!
# The trade of a power attack

A power attack gives up five faces of the die for ten more damage. In exact arithmetic the
gain falls with the armor class as long as the power attack still loses a face, which is up
to fifteen above the attack bonus, and rises from there on, where only the plain attack
loses faces. The steps of the gain are so much larger than the errors of the binary64
numbers that these see the same (`pays_of_pays_succ`, `pays_succ_of_pays`).
-/

namespace ExpectedDamage.Breakpoint

open Combat Binary64

/-! The share of the damage that a number of faces is worth. -/

/-- The share of the damage of a hit that an attack can expect. -/
def hitShare (edge : Edge) (faces : Int) : Rat :=
  plainShare edge faces + 3 / 2 * critShare edge

theorem hitShare_none (n : Int) : hitShare .none n = (2 * n + 1) / 40 := by
  rw [hitShare, plainShare_none, critShare_none]
  ring

theorem hitShare_advantage (n : Int) :
    hitShare .advantage n = (2 * (n * (40 - n)) + 39) / 800 := by
  rw [hitShare, plainShare_advantage, critShare_advantage]
  ring

section Share

variable {edge : Edge} (hedge : edge ≠ .disadvantage) {n : Int}

include hedge

theorem le_hitShare_succ_sub (hhigh : n ≤ 18) :
    3 / 400 ≤ hitShare edge (n + 1) - hitShare edge n := by
  have hn : (n : Rat) ≤ 18 := by exact_mod_cast hhigh
  cases edge with
  | none =>
      rw [hitShare_none, hitShare_none]
      push_cast
      linarith
  | advantage =>
      rw [hitShare_advantage, hitShare_advantage]
      push_cast
      linarith
  | disadvantage => exact absurd rfl hedge

/-- A face is worth no less where fewer faces hit. -/
theorem hitShare_succ_sub_le (n : Int) :
    hitShare edge (n + 1) - hitShare edge n ≤
      hitShare edge (n - 5 + 1) - hitShare edge (n - 5) := by
  cases edge with
  | none =>
      simp only [hitShare_none]
      push_cast
      linarith
  | advantage =>
      simp only [hitShare_advantage]
      push_cast
      linarith
  | disadvantage => exact absurd rfl hedge

/-- What five faces are worth. -/
theorem hitShare_sub_five_le (hhigh : n ≤ 19) :
    hitShare edge (n - 5) + 7 / 80 ≤ hitShare edge n := by
  have hn : (n : Rat) ≤ 19 := by exact_mod_cast hhigh
  cases edge with
  | none =>
      simp only [hitShare_none]
      push_cast
      linarith
  | advantage =>
      simp only [hitShare_advantage]
      push_cast
      linarith
  | disadvantage => exact absurd rfl hedge

theorem le_hitShare_one : 3 / 40 ≤ hitShare edge 1 := by
  cases edge with
  | none =>
      rw [hitShare_none]
      norm_num
  | advantage =>
      rw [hitShare_advantage]
      norm_num
  | disadvantage => exact absurd rfl hedge

theorem hitShare_le_of_le_five (hhigh : n ≤ 5) :
    hitShare edge n ≤ hitShare edge 1 + 17 / 50 := by
  have hn : (n : Rat) ≤ 5 := by exact_mod_cast hhigh
  cases edge with
  | none =>
      simp only [hitShare_none]
      push_cast
      linarith
  | advantage =>
      have hproduct : 0 ≤ (5 - n : Rat) * (35 - n) :=
        mul_nonneg (by linarith) (by linarith)
      simp only [hitShare_advantage]
      push_cast
      linarith
  | disadvantage => exact absurd rfl hedge

theorem hitShare_bounds (hlow : 1 ≤ n) (hhigh : n ≤ 19) :
    0 ≤ hitShare edge n ∧ hitShare edge n ≤ 6 / 5 := by
  obtain ⟨hplain, hplain'⟩ := plainShare_bounds edge hlow hhigh
  obtain ⟨hcrit, -⟩ := critShare_bounds edge
  have hcrit' : (critShare edge : Rat) ≤ 2 / 15 := by
    cases edge with
    | none => rw [critShare_none]; norm_num
    | advantage => rw [critShare_advantage]; norm_num
    | disadvantage => exact absurd rfl hedge
  rw [hitShare]
  constructor
  · linarith
  · linarith

end Share

/-! The gain of the trade. -/

/-- What a power attack gains, in exact arithmetic, if a hit does `plain` damage without it
and `powered` damage with it. -/
def gain (edge : Edge) (bonus : Int) (plain powered : Rat) (armor : Int) : Rat :=
  hitShare edge (hitFaces (bonus - 5) armor) * powered -
    hitShare edge (hitFaces bonus armor) * plain

/-- The damage of a hit in binary64 numbers, and that damage raised by ten. -/
structure Raised (plain powered : Binary64) : Prop where
  nonneg : 0 ≤ plain.value
  near : |powered.value - (plain.value + 10)| ≤ (plain.value + 11) / 2 ^ 50

theorem Raised.bounds {plain powered : Binary64} (h : Raised plain powered) :
    plain.value + 9 ≤ powered.value + plain.value / 2 ^ 50 ∧
      powered.value ≤ plain.value + 11 + plain.value / 2 ^ 50 := by
  have hnear := abs_le.1 h.near
  constructor
  · linarith
  · linarith

/-- The expected damage of both attacks against an armor class is finite. -/
structure Swings (edge : Edge) (bonus : Int) (plain powered : Binary64) (armor : Int) :
    Prop where
  plain : (damageAt edge (hitFaces bonus armor) plain).IsFinite
  powered : (damageAt edge (hitFaces (bonus - 5) armor) powered).IsFinite

/-- In binary64 numbers, the power attack does more damage. -/
def Pays (edge : Edge) (bonus : Int) (plain powered : Binary64) (armor : Int) : Prop :=
  damageAt edge (hitFaces bonus armor) plain < damageAt edge (hitFaces (bonus - 5) armor) powered

/-- The errors of both expected damages. -/
def slack (plain powered : Binary64) : Rat := (plain.value + powered.value + 2) / 2 ^ 46

section Trade

variable {edge : Edge} {bonus armor : Int} {plain powered : Binary64}

theorem near_hitShare (hplain : 0 ≤ plain.value)
    (h : (damageAt edge (hitFaces bonus armor) plain).IsFinite) :
    Near (damageAt edge (hitFaces bonus armor) plain)
      (hitShare edge (hitFaces bonus armor) * plain.value) ((plain.value + 1) / 2 ^ 46) := by
  obtain ⟨hlow, hhigh⟩ := hitFaces_bounds bonus armor
  have hnear := near_damageAt edge hlow hhigh hplain h
  rwa [damageAt_rat] at hnear

theorem Swings.abs_sub_gain_le (hraised : Raised plain powered)
    (h : Swings edge bonus plain powered armor) :
    |(damageAt edge (hitFaces (bonus - 5) armor) powered).value -
      (damageAt edge (hitFaces bonus armor) plain).value -
        gain edge bonus plain.value powered.value armor| ≤ slack plain powered := by
  have hnonneg := hraised.nonneg
  have hbounds := hraised.bounds
  have hplain := abs_le.1 (near_hitShare hnonneg h.plain).error_le
  have hpowered := abs_le.1 (near_hitShare (by linarith) h.powered).error_le
  rw [gain, slack, abs_le]
  constructor
  · linarith
  · linarith

theorem Swings.pays_of_slack_lt (hraised : Raised plain powered)
    (h : Swings edge bonus plain powered armor)
    (hgain : slack plain powered < gain edge bonus plain.value powered.value armor) :
    Pays edge bonus plain powered armor := by
  have herror := abs_le.1 (h.abs_sub_gain_le hraised)
  rw [Pays, less_iff h.plain h.powered]
  linarith

theorem Swings.neg_slack_lt_of_pays (hraised : Raised plain powered)
    (h : Swings edge bonus plain powered armor) (hpays : Pays edge bonus plain powered armor) :
    -slack plain powered < gain edge bonus plain.value powered.value armor := by
  have herror := abs_le.1 (h.abs_sub_gain_le hraised)
  rw [Pays, less_iff h.plain h.powered] at hpays
  linarith

/-- Where the gain is larger by more than the errors, the power attack still pays. -/
theorem Swings.pays_of_gain_le (hraised : Raised plain powered) {armor' : Int}
    (h : Swings edge bonus plain powered armor) (h' : Swings edge bonus plain powered armor')
    (hgain : gain edge bonus plain.value powered.value armor + 2 * slack plain powered ≤
      gain edge bonus plain.value powered.value armor')
    (hpays : Pays edge bonus plain powered armor) :
    Pays edge bonus plain powered armor' := by
  have hlarge := h.neg_slack_lt_of_pays hraised hpays
  exact h'.pays_of_slack_lt hraised (by linarith)

/-- At the top of the chances of the plain attack, only the power attack loses a face. -/
theorem gain_le_of_le_one (hedge : edge ≠ .disadvantage) (hraised : Raised plain powered)
    (hlow : -3 ≤ armor - bonus) (hhigh : armor - bonus ≤ 1) :
    gain edge bonus plain.value powered.value (armor + 1) + 2 * slack plain powered ≤
      gain edge bonus plain.value powered.value armor := by
  have hplain : hitFaces bonus (armor + 1) = hitFaces bonus armor :=
    hitFaces_succ_of_clamped (by omega)
  have hpowered : hitFaces (bonus - 5) armor = hitFaces (bonus - 5) (armor + 1) + 1 :=
    hitFaces_eq_succ_add_one (by omega) (by omega)
  have hfaces := (hitFaces_bounds (bonus - 5) armor).2
  rw [hpowered] at hfaces
  have hnonneg := hraised.nonneg
  have hbounds := hraised.bounds
  have hface := le_hitShare_succ_sub (n := hitFaces (bonus - 5) (armor + 1)) hedge (by omega)
  rw [gain, gain, hplain, hpowered, slack]
  generalize hitFaces (bonus - 5) (armor + 1) = n at *
  have hworth : 3 / 400 * powered.value ≤
      (hitShare edge (n + 1) - hitShare edge n) * powered.value :=
    mul_le_mul_of_nonneg_right hface (by linarith)
  linarith

/-- Where both attacks lose a face, the power attack loses no less of more damage. The
damage must not be so large that the rounding of its sum counts. -/
theorem gain_le_of_lt_fifteen (hedge : edge ≠ .disadvantage) (hraised : Raised plain powered)
    (hlow : 2 ≤ armor - bonus) (hhigh : armor - bonus < 15) (hdamage : plain.value ≤ 200) :
    gain edge bonus plain.value powered.value (armor + 1) + 2 * slack plain powered ≤
      gain edge bonus plain.value powered.value armor := by
  have hplain : hitFaces bonus armor = hitFaces bonus (armor + 1) + 1 :=
    hitFaces_eq_succ_add_one hlow (by omega)
  have hpowered : hitFaces (bonus - 5) armor = hitFaces (bonus - 5) (armor + 1) + 1 :=
    hitFaces_eq_succ_add_one (by omega) (by omega)
  have hfive : hitFaces (bonus - 5) (armor + 1) = hitFaces bonus (armor + 1) - 5 :=
    hitFaces_sub_five (by omega) (by omega)
  have hfaces := (hitFaces_bounds bonus armor).2
  rw [hplain] at hfaces
  have hnonneg := hraised.nonneg
  have hbounds := hraised.bounds
  have hface := le_hitShare_succ_sub (n := hitFaces bonus (armor + 1)) hedge (by omega)
  have hmore := hitShare_succ_sub_le hedge (hitFaces bonus (armor + 1))
  rw [gain, gain, hplain, hpowered, hfive, slack]
  generalize hitFaces bonus (armor + 1) = n at *
  have hsame : (hitShare edge (n + 1) - hitShare edge n) * powered.value ≤
      (hitShare edge (n - 5 + 1) - hitShare edge (n - 5)) * powered.value :=
    mul_le_mul_of_nonneg_right hmore (by linarith)
  have hworth : 3 / 400 * (powered.value - plain.value) ≤
      (hitShare edge (n + 1) - hitShare edge n) * (powered.value - plain.value) :=
    mul_le_mul_of_nonneg_right hface (by linarith)
  linarith

/-- A power attack that pays is made with little damage, if it has five faces less. -/
theorem Swings.damage_le_of_pays (hedge : edge ≠ .disadvantage) (hraised : Raised plain powered)
    (h : Swings edge bonus plain powered armor) (hlow : 2 ≤ armor - bonus)
    (hhigh : armor - bonus ≤ 15) (hpays : Pays edge bonus plain powered armor) :
    plain.value ≤ 200 := by
  have hpowered : hitFaces (bonus - 5) armor = hitFaces bonus armor - 5 :=
    hitFaces_sub_five hlow hhigh
  have hsome := (hitFaces_bounds (bonus - 5) armor).1
  rw [hpowered] at hsome
  have hmost := (hitFaces_bounds bonus armor).2
  have hnonneg := hraised.nonneg
  have hbounds := hraised.bounds
  have hfive := hitShare_sub_five_le hedge hmost
  have hgain := h.neg_slack_lt_of_pays hraised hpays
  rw [gain, hpowered, slack] at hgain
  generalize hitFaces bonus armor = n at *
  obtain ⟨hshare, hshare'⟩ := hitShare_bounds hedge (n := n - 5) (by omega) (by omega)
  have hlost : (hitShare edge (n - 5) + 7 / 80) * plain.value ≤ hitShare edge n * plain.value :=
    mul_le_mul_of_nonneg_right hfive hnonneg
  have hraise : hitShare edge (n - 5) * (powered.value - plain.value) ≤
      6 / 5 * (11 + plain.value / 2 ^ 50) := by
    calc hitShare edge (n - 5) * (powered.value - plain.value)
        ≤ hitShare edge (n - 5) * (11 + plain.value / 2 ^ 50) :=
          mul_le_mul_of_nonneg_left (by linarith) hshare
      _ ≤ 6 / 5 * (11 + plain.value / 2 ^ 50) :=
          mul_le_mul_of_nonneg_right hshare' (by positivity)
  by_contra hlarge
  linarith

/-- At the bottom of the chances of the power attack, only the plain attack loses a face. -/
theorem gain_le_succ_of_fifteen_le (hedge : edge ≠ .disadvantage)
    (hraised : Raised plain powered) (hlow : 15 ≤ armor - bonus) (hhigh : armor - bonus < 20)
    (hdamage : 1 ≤ plain.value) :
    gain edge bonus plain.value powered.value armor + 2 * slack plain powered ≤
      gain edge bonus plain.value powered.value (armor + 1) := by
  have hplain : hitFaces bonus armor = hitFaces bonus (armor + 1) + 1 :=
    hitFaces_eq_succ_add_one (by omega) hhigh
  have hpowered : hitFaces (bonus - 5) (armor + 1) = hitFaces (bonus - 5) armor :=
    hitFaces_succ_of_clamped (by omega)
  have hfaces := (hitFaces_bounds bonus armor).2
  rw [hplain] at hfaces
  have hbounds := hraised.bounds
  have hface := le_hitShare_succ_sub (n := hitFaces bonus (armor + 1)) hedge (by omega)
  rw [gain, gain, hplain, hpowered, slack]
  generalize hitFaces bonus (armor + 1) = n at *
  have hworth : 3 / 400 * plain.value ≤
      (hitShare edge (n + 1) - hitShare edge n) * plain.value :=
    mul_le_mul_of_nonneg_right hface (by linarith)
  linarith

/-- With little damage, the power attack pays where it hits with the highest face only. -/
theorem slack_lt_gain_of_lt_one (hedge : edge ≠ .disadvantage) (hraised : Raised plain powered)
    (hlow : 16 ≤ armor - bonus) (hdamage : plain.value < 1) :
    slack plain powered < gain edge bonus plain.value powered.value armor := by
  have hpowered : hitFaces (bonus - 5) armor = 1 := by
    rw [hitFaces]
    omega
  have hfaces : hitFaces bonus armor ≤ 5 := by
    rw [hitFaces]
    omega
  have hnonneg := hraised.nonneg
  have hbounds := hraised.bounds
  have hone := le_hitShare_one hedge
  have hfew := hitShare_le_of_le_five hedge hfaces
  rw [gain, hpowered, slack]
  have hworth : 3 / 40 * (powered.value - plain.value) ≤
      hitShare edge 1 * (powered.value - plain.value) :=
    mul_le_mul_of_nonneg_right hone (by linarith)
  have hlost : hitShare edge (hitFaces bonus armor) * plain.value ≤
      (hitShare edge 1 + 17 / 50) * plain.value := mul_le_mul_of_nonneg_right hfew hnonneg
  linarith

/-! The steps of the trade in binary64 numbers. -/

/-- Up to fifteen above the bonus, a power attack that pays also pays against less armor. -/
theorem pays_of_pays_succ (hedge : edge ≠ .disadvantage) (hraised : Raised plain powered)
    (h : Swings edge bonus plain powered armor)
    (hsucc : Swings edge bonus plain powered (armor + 1)) (hmargin : armor - bonus < 15)
    (hpays : Pays edge bonus plain powered (armor + 1)) :
    Pays edge bonus plain powered armor := by
  -- Below that margin neither attack loses a face, and up to one only the power attack does.
  by_cases hall : armor - bonus < -3
  · have hplain : hitFaces bonus (armor + 1) = hitFaces bonus armor :=
      hitFaces_succ_of_clamped (by omega)
    have hpowered : hitFaces (bonus - 5) (armor + 1) = hitFaces (bonus - 5) armor :=
      hitFaces_succ_of_clamped (by omega)
    rwa [Pays, hplain, hpowered] at hpays
  · refine hsucc.pays_of_gain_le hraised h ?_ hpays
    by_cases htop : armor - bonus ≤ 1
    · exact gain_le_of_le_one hedge hraised (by omega) htop
    · have hdamage := hsucc.damage_le_of_pays hedge hraised (by omega) (by omega) hpays
      exact gain_le_of_lt_fifteen hedge hraised (by omega) hmargin hdamage

/-- From fifteen above the bonus on, a power attack that pays also pays against more armor. -/
theorem pays_succ_of_pays (hedge : edge ≠ .disadvantage) (hraised : Raised plain powered)
    (h : Swings edge bonus plain powered armor)
    (hsucc : Swings edge bonus plain powered (armor + 1)) (hmargin : 15 ≤ armor - bonus)
    (hpays : Pays edge bonus plain powered armor) :
    Pays edge bonus plain powered (armor + 1) := by
  -- From that margin on, both attacks hit with a single face.
  by_cases hnone : 20 ≤ armor - bonus
  · have hplain : hitFaces bonus (armor + 1) = hitFaces bonus armor :=
      hitFaces_succ_of_clamped (by omega)
    have hpowered : hitFaces (bonus - 5) (armor + 1) = hitFaces (bonus - 5) armor :=
      hitFaces_succ_of_clamped (by omega)
    rwa [Pays, hplain, hpowered]
  · by_cases hdamage : plain.value < 1
    · exact hsucc.pays_of_slack_lt hraised
        (slack_lt_gain_of_lt_one hedge hraised (by omega) hdamage)
    · exact h.pays_of_gain_le hraised hsucc
        (gain_le_succ_of_fifteen_le hedge hraised hmargin (by omega) (not_lt.1 hdamage)) hpays

end Trade

end ExpectedDamage.Breakpoint
