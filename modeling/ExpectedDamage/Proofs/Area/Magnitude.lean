import ExpectedDamage.Proofs.Area.Estimate
import ExpectedDamage.Proofs.Number.Magnitude
/-!
# Areas of an ordinary magnitude

The squares of a template grow like the square of its size. With a size of `k` bits they
have at most `2 * k + 8`, and the targets in them one more: far less than a binary64 number
holds, unless a text writes hundreds of digits.
-/

namespace ExpectedDamage.Area

open Binary64 Text

attribute [local irreducible] grainsPerUnit grainLimit roundLimit

namespace Template

theorem exists_roundUp? {x : Binary64} {k : Nat} (h : Within x (2 ^ k)) (hk : k < 970) :
    ∃ n, roundUp? x = .ok n ∧ n ≤ 2 ^ (k + 1) := by
  obtain ⟨hfloor, hle⟩ := (h.add_half hk).floor?
  refine ⟨⌊(x + 0.5).value⌋.toNat, ?_, ?_⟩
  · rw [roundUp?, hfloor]
    rfl
  · rw [Int.toNat_le]
    exact_mod_cast hle

theorem exists_square? {x : Binary64} {k : Nat} (h : Within x (2 ^ k)) (hk : k + k ≤ 970) :
    ∃ y, square? x = .ok y ∧ Within y (2 ^ (k + k)) := by
  have hsquare := h.mul_pow h hk
  obtain ⟨s, g, hg, hx⟩ := exists_of_isFinite hsquare.isFinite
  refine ⟨x * x, ?_, hsquare⟩
  rw [square?, if_neg]
  rw [hx]
  exact Bool.false_ne_true

/-- The size in squares. -/
theorem exists_side? {size k : Nat} (hsize : size ≤ 2 ^ k) (hk : k ≤ 970) :
    ∃ x, quotient? size 5 = .ok x ∧ Within x (2 ^ k) := by
  refine exists_quotient?_within (by decide) ?_ (attained_pow hk)
  have hsize : (size : Rat) ≤ 2 ^ k := by exact_mod_cast hsize
  have hnonneg : (0 : Rat) ≤ size := Nat.cast_nonneg size
  rw [Int.cast_natCast, abs_of_nonneg (by positivity)]
  exact (div_le_self hnonneg (by norm_num)).trans hsize

theorem exists_measured? (t : Template) {size k : Nat} (hsize : size ≤ 2 ^ k)
    (hk : 2 * k + 8 ≤ 970) :
    ∃ squares, t.measured? size = .ok squares ∧ squares ≤ 2 ^ (2 * k + 8) := by
  have hle {n j : Nat} (hn : n ≤ 2 ^ j) (hj : j ≤ 2 * k + 8) : n ≤ 2 ^ (2 * k + 8) :=
    hn.trans (Nat.pow_le_pow_right Nat.two_pos hj)
  obtain ⟨side, hside, hwithin⟩ := exists_side? hsize (by omega)
  cases t with
  | cone =>
      have hquotient : |(((size * size : Int) : Rat) / (25 : Int))| ≤ 2 ^ (k + k) := by
        have hsize : (size : Rat) ≤ 2 ^ k := by exact_mod_cast hsize
        push_cast
        rw [abs_of_nonneg (by positivity), pow_add]
        refine (div_le_self (by positivity) (by norm_num)).trans ?_
        exact mul_le_mul hsize hsize (by positivity) (by positivity)
      obtain ⟨x, hx, hsquare⟩ :=
        exists_quotient?_within (by decide) hquotient (attained_pow (by omega))
      obtain ⟨n, hn, hbound⟩ := exists_roundUp? hsquare (by omega)
      exact ⟨n, bind_eq_ok_iff.2 ⟨x, hx, hn⟩, hle hbound (by omega)⟩
  | cylinder => exact ⟨4, rfl, hle (j := 2) (by decide) (by omega)⟩
  | emanation =>
      have htwo : Within (2 : Binary64) (2 ^ 1) := ⟨by decide +kernel, by decide +kernel⟩
      obtain ⟨y, hy, hsquare⟩ := exists_square? (hwithin.mul_pow htwo (by omega)) (by omega)
      obtain ⟨n, hn, hbound⟩ := exists_roundUp? hsquare (by omega)
      exact ⟨n, bind_eq_ok_iff.2 ⟨side, hside, bind_eq_ok_iff.2 ⟨y, hy, hn⟩⟩,
        hle hbound (by omega)⟩
  | cube =>
      obtain ⟨y, hy, hsquare⟩ := exists_square? hwithin (by omega)
      obtain ⟨n, hn, hbound⟩ := exists_roundUp? hsquare (by omega)
      exact ⟨n, bind_eq_ok_iff.2 ⟨side, hside, bind_eq_ok_iff.2 ⟨y, hy, hn⟩⟩,
        hle hbound (by omega)⟩
  | line =>
      obtain ⟨n, hn, hbound⟩ := exists_roundUp? hwithin (by omega)
      exact ⟨n, bind_eq_ok_iff.2 ⟨side, hside, hn⟩, hle hbound (by omega)⟩
  | burst =>
      have hpi : Within (3.141592653589793 : Binary64) (2 ^ 2) :=
        ⟨by decide +kernel, by decide +kernel⟩
      obtain ⟨y, hy, hsquare⟩ := exists_square? hwithin (by omega)
      obtain ⟨n, hn, hbound⟩ := exists_roundUp? (hpi.mul_pow hsquare (by omega)) (by omega)
      exact ⟨n, bind_eq_ok_iff.2 ⟨side, hside, bind_eq_ok_iff.2 ⟨y, hy, hn⟩⟩,
        hle hbound (by omega)⟩

/-- A template of ordinary size has squares, and not too many. -/
theorem exists_squares? (t : Template) {size k : Nat} (hsize : size ≤ 2 ^ k)
    (hk : 2 * k + 8 ≤ 970) :
    ∃ squares, t.squares? size = .ok squares ∧ squares ≤ 2 ^ (2 * k + 8) := by
  rw [squares?]
  split
  · next squares hlisted =>
      refine ⟨squares, rfl, (le_of_listed? hlisted).trans ?_⟩
      exact (show 200 ≤ 2 ^ 8 by decide).trans (Nat.pow_le_pow_right Nat.two_pos (by omega))
  · exact exists_measured? t hsize hk

end Template

/-- The size of the area that is found first can be read and has at most `k` bits. -/
def SizeWithin (text : List Char) (k : Nat) : Prop :=
  ∀ rule template digits, firstFinding? text = some (rule, .area template digits) →
    ∃ size, WholeText.value? digits = .ok size ∧ size ≤ 2 ^ k

theorem le_of_enemiesIn? {squares k : Nat} {clustered : Bool} {n : Int}
    (hsquares : squares ≤ 2 ^ k) (hk : k < 970) (h : enemiesIn? squares clustered = .ok n) :
    0 ≤ n ∧ n ≤ 2 ^ (k + 1) := by
  obtain ⟨x, hx, h⟩ := bind_eq_ok_iff.1 h
  obtain ⟨m, hm, h⟩ := bind_eq_ok_iff.1 h
  obtain rfl : max 1 m = n := Except.ok.inj h
  have hone : (1 : Rat) ≤ density clustered := by cases clustered <;> decide
  have hquotient : |((squares : Int) / density clustered : Rat)| ≤ 2 ^ k := by
    have hsquares : (squares : Rat) ≤ 2 ^ k := by exact_mod_cast hsquares
    rw [Int.cast_natCast, abs_of_nonneg (by positivity)]
    exact (div_le_self (Nat.cast_nonneg squares) hone).trans hsquares
  have hx := within_of_quotient? hx hquotient (attained_pow hk.le)
  obtain ⟨hfloor, hle⟩ := (hx.add_half hk).floor?
  obtain rfl := Except.ok.inj (hfloor.symm.trans hm)
  have hpos : (1 : Int) ≤ 2 ^ (k + 1) := one_le_pow₀ (by decide)
  omega

theorem maxTargets_le {text : List Char} {k : Nat} (hsize : SizeWithin text k)
    (hk : 2 * k + 8 ≤ 970) {rule : TargetRule} {finding : Finding} {m : RuleMatch}
    (hfirst : firstFinding? text = some (rule, finding)) (h : finding.measure? rule = .ok m) :
    m.maxTargets ≤ 2 ^ (2 * k + 8) := by
  cases finding with
  | area template digits =>
      obtain ⟨size, hread, hle⟩ := hsize rule template digits hfirst
      obtain ⟨-, rfl⟩ := WholeText.value?_eq_ok_iff.1 hread
      obtain ⟨squares, hsquares, hbound⟩ := template.exists_squares? hle hk
      obtain ⟨squares', -, hsquares', rfl⟩ := measure?_area_eq_ok_iff.1 h
      obtain rfl := Except.ok.inj (hsquares.symm.trans hsquares')
      exact hbound
  | count targets most =>
      have hmost : most ≤ 20 := (isSmall_of_firstFinding? hfirst).2.2
      have hgrow : 2 ^ 8 ≤ 2 ^ (2 * k + 8) := Nat.pow_le_pow_right Nat.two_pos (by omega)
      obtain rfl := Except.ok.inj h
      exact hmost.trans ((show 20 ≤ 2 ^ 8 by decide).trans hgrow)

/-- The targets of an area of ordinary size are not too many either. -/
theorem abs_targets_le {text : List Char} {context : Combat.Context} {clustered : Bool}
    {e : TargetEstimate} {k : Nat} (hsize : SizeWithin text k) (hk : 2 * k + 8 < 970)
    (h : estimate? text context clustered = .ok e) : |(e.targets : Rat)| ≤ 2 ^ (2 * k + 9) := by
  have hbounds : 0 ≤ e.targets ∧ e.targets ≤ 2 ^ (2 * k + 9) := by
    obtain hone | ⟨rule, finding, m, hfirst, hmeasure, htargets⟩ := targets_cases h
    · rw [hone]
      exact ⟨by decide, one_le_pow₀ (by decide)⟩
    · have hmost := maxTargets_le hsize (by omega) hfirst hmeasure
      obtain ⟨hnonneg, hle⟩ | henemies := htargets
      · refine ⟨hnonneg, hle.trans ?_⟩
        have hgrow : 2 ^ (2 * k + 8) ≤ 2 ^ (2 * k + 9) :=
          Nat.pow_le_pow_right Nat.two_pos (Nat.le_succ _)
        exact_mod_cast hmost.trans hgrow
      · exact le_of_enemiesIn? hmost hk henemies
  rw [abs_of_nonneg (by exact_mod_cast hbounds.1)]
  exact_mod_cast hbounds.2

end ExpectedDamage.Area
