import ExpectedDamage.Proofs.Area.Estimate
import ExpectedDamage.Proofs.Number.Order
/-!
# What a template covers

The squares of a template grow with its size where no table lists it
(`Template.measured?_mono`), so a template covers a square exactly from its least size on
(`Template.squares?_pos_iff`). The enemies in an area are at least one and, if the area
covers a square, no more than its squares. An estimate is therefore between one and the
most that its wording allows, unless the area that is found is smaller than the least size
of its template: then the most is zero (`estimate?_within_iff`).
-/

namespace ExpectedDamage.Area

open Binary64

attribute [local irreducible] grainsPerUnit grainLimit roundLimit

/-! Squares. -/

namespace Template

theorem roundUp?_mono {x y : Binary64} {m n : Nat} (h : Below x y) (hm : roundUp? x = .ok m)
    (hn : roundUp? y = .ok n) : m ≤ n := by
  obtain ⟨i, hi, rfl⟩ := map_eq_ok_iff.1 hm
  obtain ⟨j, hj, rfl⟩ := map_eq_ok_iff.1 hn
  exact Int.toNat_le_toNat (h.floor?_half_le hi hj).2

theorem below_square? {x y u v : Binary64} (h : Below x y) (hu : square? x = .ok u)
    (hv : square? y = .ok v) : Below u v := by
  rw [square?] at hu hv
  split at hu
  · exact nomatch hu
  · next hfinite =>
      split at hv
      · exact nomatch hv
      · next hfinite' =>
          obtain rfl := Except.ok.inj hu
          obtain rfl := Except.ok.inj hv
          apply h.mul h
          · exact (rounds_mul h.isFinite h.isFinite).isFinite_of_not_isInfinite hfinite
          · exact (rounds_mul h.isFinite' h.isFinite').isFinite_of_not_isInfinite hfinite'

/-- What is squared is not infinite. -/
theorem not_isInfinite_of_square? {x u : Binary64} (h : square? x = .ok u) :
    ¬ x.isInfinite = true := by
  intro hx
  cases x with
  | finite s g hg => exact nomatch hx
  | notANumber => exact nomatch hx
  | infinite s =>
      have hsquare : (infinite s * infinite s).isInfinite = true := rfl
      rw [square?, if_pos hsquare] at h
      exact nomatch h

/-- What is rounded up is finite. -/
theorem isFinite_of_roundUp? {x : Binary64} {n : Nat} (h : roundUp? x = .ok n) :
    x.IsFinite := by
  obtain ⟨m, hm, -⟩ := map_eq_ok_iff.1 h
  exact exists_floor?_half_iff.1 ⟨m, hm⟩

/-- A larger template does not measure fewer squares. -/
theorem measured?_mono (t : Template) {a b m n : Nat} (hab : a ≤ b) (hm : t.measured? a = .ok m)
    (hn : t.measured? b = .ok n) : m ≤ n := by
  have hside : ∀ x y, quotient? a 5 = .ok x → quotient? b 5 = .ok y → Below x y := by
    intro x y hx hy
    exact below_quotient? (Int.natCast_nonneg a) (Int.ofNat_le.2 hab) (by decide) hx hy
  cases t with
  | cylinder =>
      obtain rfl : 4 = m := Except.ok.inj hm
      obtain rfl : 4 = n := Except.ok.inj hn
      exact Nat.le_refl _
  | cone =>
      obtain ⟨x, hx, hm⟩ := bind_eq_ok_iff.1 hm
      obtain ⟨y, hy, hn⟩ := bind_eq_ok_iff.1 hn
      have hsquare : (a * a : Int) ≤ b * b := by exact_mod_cast Nat.mul_le_mul hab hab
      exact roundUp?_mono (below_quotient? (by positivity) hsquare (by decide) hx hy) hm hn
  | line =>
      obtain ⟨x, hx, hm⟩ := bind_eq_ok_iff.1 hm
      obtain ⟨y, hy, hn⟩ := bind_eq_ok_iff.1 hn
      exact roundUp?_mono (hside x y hx hy) hm hn
  | cube =>
      obtain ⟨x, hx, hm⟩ := bind_eq_ok_iff.1 hm
      obtain ⟨u, hu, hm⟩ := bind_eq_ok_iff.1 hm
      obtain ⟨y, hy, hn⟩ := bind_eq_ok_iff.1 hn
      obtain ⟨v, hv, hn⟩ := bind_eq_ok_iff.1 hn
      exact roundUp?_mono (below_square? (hside x y hx hy) hu hv) hm hn
  | emanation =>
      obtain ⟨x, hx, hm⟩ := bind_eq_ok_iff.1 hm
      obtain ⟨u, hu, hm⟩ := bind_eq_ok_iff.1 hm
      obtain ⟨y, hy, hn⟩ := bind_eq_ok_iff.1 hn
      obtain ⟨v, hv, hn⟩ := bind_eq_ok_iff.1 hn
      have htwo : Below (2 : Binary64) 2 := .refl (by decide +kernel) (by decide +kernel)
      have hx := hside x y hx hy
      have hdouble : Below (x * 2) (y * 2) := by
        apply hx.mul htwo
        · exact (rounds_mul hx.isFinite htwo.isFinite).isFinite_of_not_isInfinite
            (not_isInfinite_of_square? hu)
        · exact (rounds_mul hx.isFinite' htwo.isFinite).isFinite_of_not_isInfinite
            (not_isInfinite_of_square? hv)
      exact roundUp?_mono (below_square? hdouble hu hv) hm hn
  | burst =>
      obtain ⟨x, hx, hm⟩ := bind_eq_ok_iff.1 hm
      obtain ⟨u, hu, hm⟩ := bind_eq_ok_iff.1 hm
      obtain ⟨y, hy, hn⟩ := bind_eq_ok_iff.1 hn
      obtain ⟨v, hv, hn⟩ := bind_eq_ok_iff.1 hn
      have hpi : Below (3.141592653589793 : Binary64) 3.141592653589793 :=
        .refl (by decide +kernel) (by decide +kernel)
      have hsquare := below_square? (hside x y hx hy) hu hv
      exact roundUp?_mono (hpi.mul hsquare (isFinite_of_roundUp? hm) (isFinite_of_roundUp? hn))
        hm hn

/-- The least size in feet from which on a template covers a square. -/
def leastSize : Template → Nat
  | cone => 4
  | cylinder => 0
  | emanation => 2
  | cube => 4
  | line => 3
  | burst => 2

theorem exists_measured?_leastSize (t : Template) :
    ∃ n, t.measured? t.leastSize = .ok n ∧ 0 < n := by
  cases t with
  | cylinder => exact ⟨4, rfl, by decide⟩
  | _ => exact ⟨1, by decide +kernel, by decide⟩

theorem measured?_of_lt_leastSize {t : Template} (h : 0 < t.leastSize) :
    t.measured? (t.leastSize - 1) = .ok 0 := by
  cases t with
  | cylinder => exact absurd h (by decide)
  | _ => decide +kernel

theorem measured?_pos_iff {t : Template} {size squares : Nat}
    (h : t.measured? size = .ok squares) : 0 < squares ↔ t.leastSize ≤ size := by
  constructor
  · intro hpos
    by_contra hsize
    have hlow : size ≤ t.leastSize - 1 := by omega
    have hzero := t.measured?_mono hlow h (measured?_of_lt_leastSize (by omega))
    omega
  · intro hsize
    obtain ⟨n, hn, hpos⟩ := t.exists_measured?_leastSize
    exact hpos.trans_le (t.measured?_mono hsize hn h)

/-- A table has no size below the least one and no template without a square. -/
theorem listed?_bounds {t : Template} {size squares : Nat} (h : t.listed? size = some squares) :
    0 < squares ∧ t.leastSize ≤ size := by
  have hentries : ∀ entry ∈ t.entries, 0 < entry.2 ∧ t.leastSize ≤ entry.1 := by
    cases t <;> decide
  exact hentries _ (mem_entries_of_listed? h)

/-- A template covers a square exactly from its least size on. -/
theorem squares?_pos_iff {t : Template} {size squares : Nat}
    (h : t.squares? size = .ok squares) : 0 < squares ↔ t.leastSize ≤ size := by
  rw [squares?] at h
  split at h
  · next listed hlisted =>
      obtain rfl := Except.ok.inj h
      obtain ⟨hpos, hsize⟩ := listed?_bounds hlisted
      exact iff_of_true hpos hsize
  · exact measured?_pos_iff h

end Template

/-! Targets. -/

/-- The enemies in an area are at least one, and no more than its squares if it has any. -/
theorem enemiesIn?_bounds {squares : Nat} {clustered : Bool} {n : Int}
    (h : enemiesIn? squares clustered = .ok n) : 1 ≤ n ∧ (0 < squares → n ≤ squares) := by
  obtain ⟨x, hx, h⟩ := bind_eq_ok_iff.1 h
  obtain ⟨m, hm, h⟩ := bind_eq_ok_iff.1 h
  obtain rfl : max 1 m = n := Except.ok.inj h
  obtain ⟨hfinite, rfl⟩ := floor?_eq_ok_iff.1 hm
  obtain ⟨hdensity, hlimit, rfl⟩ := quotient?_eq_ok_iff.1 hx
  have hsquares : (0 : Rat) ≤ squares := Nat.cast_nonneg squares
  -- The enemies are at most half the squares up to two roundings and one half.
  have hhalf : |((squares : Int) / density clustered : Rat)| ≤ squares / 2 := by
    rw [Int.cast_natCast, abs_of_nonneg (by cases clustered <;> simp [density] <;> positivity)]
    apply div_le_div_of_nonneg_left hsquares (by norm_num)
    cases clustered <;> norm_num [density]
  have hvalue : |(0.5 : Binary64).value| ≤ 1 / 2 := by decide +kernel
  have hquotient := (isFinite_of_add hfinite).1
  have hround : Near (quotient squares (density clustered))
      ((squares : Int) / density clustered) ((squares / 2 + 1) / 2 ^ 53) :=
    ⟨hquotient, (rounded_quotient hdensity hquotient).abs_sub_le_of_abs_le hhalf⟩
  have hsum := hround.add (.refl (by decide +kernel)) hhalf hvalue hfinite
  have herror := (abs_le.1 hsum.error_le).2
  have hhalf := (abs_le.1 hhalf).2
  have hvalue := (abs_le.1 hvalue).2
  have hlt : (quotient squares (density clustered) + 0.5).value < (squares : Int) + 1 := by
    rw [Int.cast_natCast] at herror hhalf ⊢
    linarith
  have hfloor := Int.floor_le_iff.2 hlt
  omega

theorem targets_nonneg {text : List Char} {context : Combat.Context} {clustered : Bool}
    {e : TargetEstimate} (h : estimate? text context clustered = .ok e) : 0 ≤ e.targets := by
  obtain hone | ⟨rule, finding, m, -, -, ⟨hnonneg, -⟩ | henemies⟩ := targets_cases h
  · omega
  · exact hnonneg
  · have hlow := (enemiesIn?_bounds henemies).1
    omega

theorem defaultTargets?_bounds {rule : TargetRule} {finding : Finding} {m : RuleMatch}
    {clustered : Bool} {n : Int} (hsmall : finding.IsSmall)
    (hmeasure : finding.measure? rule = .ok m)
    (h : m.defaultTargets? clustered = .ok n) : 1 ≤ n ∧ (0 < m.maxTargets → n ≤ m.maxTargets) := by
  cases finding with
  | area template digits =>
      obtain ⟨squares, -, -, rfl⟩ := measure?_area_eq_ok_iff.1 hmeasure
      exact enemiesIn?_bounds h
  | count targets most =>
      obtain rfl := Except.ok.inj hmeasure
      obtain rfl : (targets : Int) = n := Except.ok.inj h
      obtain ⟨hlow, hhigh, -⟩ := hsmall
      exact ⟨Int.ofNat_le.2 hlow, fun _ => Int.ofNat_le.2 hhigh⟩

/-- An estimate is between one and its most if the most is not zero. -/
theorem within_iff_maxTargets_pos {text : List Char} {context : Combat.Context}
    {clustered : Bool} {e : TargetEstimate} (h : estimate? text context clustered = .ok e) :
    1 ≤ e.targets ∧ e.targets ≤ e.maxTargets ↔ 0 < e.maxTargets := by
  constructor
  · rintro ⟨hlow, hhigh⟩
    omega
  · intro hpos
    rcases estimate?_cases h with ⟨-, rfl⟩ | ⟨rule, finding, m, hfirst, hmeasure, hmost, hcases⟩
    · exact ⟨Int.le_refl 1, Int.le_refl 1⟩
    · rw [hmost] at hpos ⊢
      rcases hcases with ⟨hexpected, htargets⟩ | ⟨-, hdefault⟩
      · omega
      · obtain ⟨hlow, hhigh⟩ :=
          defaultTargets?_bounds (isSmall_of_firstFinding? hfirst) hmeasure hdefault
        exact ⟨hlow, hhigh (by omega)⟩

/-- A count is never zero, and an area is not if it has the least size of its template. -/
theorem maxTargets_pos_iff {rule : TargetRule} {finding : Finding} {m : RuleMatch}
    (hsmall : finding.IsSmall) (h : finding.measure? rule = .ok m) :
    0 < m.maxTargets ↔ ∀ template digits, finding = .area template digits →
      template.leastSize ≤ Text.digitsValue digits := by
  cases finding with
  | area template digits =>
      obtain ⟨squares, -, hsquares, rfl⟩ := measure?_area_eq_ok_iff.1 h
      rw [Template.squares?_pos_iff hsquares]
      constructor
      · intro hleast template' digits' heq
        obtain ⟨rfl, rfl⟩ := Finding.area.inj heq
        exact hleast
      · intro hall
        exact hall template digits rfl
  | count targets most =>
      obtain rfl := Except.ok.inj h
      obtain ⟨hlow, hhigh, -⟩ := hsmall
      exact iff_of_true (hlow.trans hhigh) nofun

/-- The targets of an estimate are between one and the most that there can be, exactly if the
area that is found first, if there is one, has at least the least size of its template. A
smaller area has no square, and still has one target or none. -/
theorem estimate?_within_iff {text : List Char} {context : Combat.Context} {clustered : Bool}
    {e : TargetEstimate} (h : estimate? text context clustered = .ok e) :
    1 ≤ e.targets ∧ e.targets ≤ e.maxTargets ↔ ∀ rule template digits,
      firstFinding? text = some (rule, .area template digits) →
        template.leastSize ≤ Text.digitsValue digits := by
  rw [within_iff_maxTargets_pos h]
  rcases estimate?_cases h with ⟨hnone, rfl⟩ | ⟨rule, finding, m, hfirst, hmeasure, hmost, -⟩
  · simp [hnone]
  · rw [hmost, Int.natCast_pos, maxTargets_pos_iff (isSmall_of_firstFinding? hfirst) hmeasure,
      hfirst]
    constructor
    · intro hall rule' template digits heq
      exact hall template digits (Prod.mk.inj (Option.some.inj heq)).2
    · intro hall template digits heq
      exact hall rule template digits (by rw [heq])

/-- A cube of one foot has no square. -/
theorem estimate?_within_iff_one_foot :
    let e : TargetEstimate := ⟨1, 0, some ⟨.cube, 0, none, some (.cube, 1)⟩⟩
    estimate? "in a 1-foot cube".toList {} false = .ok e ∧
      ¬ (1 ≤ e.targets ∧ e.targets ≤ e.maxTargets) ∧
        ¬ ∀ rule template digits,
          firstFinding? "in a 1-foot cube".toList = some (rule, .area template digits) →
            template.leastSize ≤ Text.digitsValue digits := by
  intro e
  have h : estimate? "in a 1-foot cube".toList {} false = .ok e := by decide +kernel
  have hbeyond : ¬ (1 ≤ e.targets ∧ e.targets ≤ e.maxTargets) := by decide
  exact ⟨h, hbeyond, fun hall => hbeyond ((estimate?_within_iff h).2 hall)⟩

end ExpectedDamage.Area
