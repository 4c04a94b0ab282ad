import ExpectedDamage.Proofs.Area.Estimate
import ExpectedDamage.Proofs.Number.Order
/-!
# Estimates of one text

What a text is matched with, and the most targets that there can be, are a matter of the text
alone. Estimates of one text differ in their targets only: those of a count are fixed, those in
an area are no fewer if enemies stand close together (`enemiesIn?_spread_le_close`), and those
that a context asks for grow with their number up to the most (`estimate?_crowding`).
-/

namespace ExpectedDamage.Area

open Combat (Context)

/-- Half of the squares, rounded, is no less than a quarter of them. -/
theorem enemiesIn?_spread_le_close {squares : Nat} {spread close : Int}
    (hspread : enemiesIn? squares false = .ok spread) (hclose : enemiesIn? squares true = .ok close) :
    spread ≤ close := by
  obtain ⟨quarter, hquarter, hspread⟩ := bind_eq_ok_iff.1 hspread
  obtain ⟨few, hfew, hspread⟩ := bind_eq_ok_iff.1 hspread
  obtain rfl : max 1 few = spread := Except.ok.inj hspread
  obtain ⟨half, hhalf, hclose⟩ := bind_eq_ok_iff.1 hclose
  obtain ⟨many, hmany, hclose⟩ := bind_eq_ok_iff.1 hclose
  obtain rfl : max 1 many = close := Except.ok.inj hclose
  have hfraction : (squares : Int) * density true ≤ squares * density false :=
    Int.mul_le_mul_of_nonneg_left (by decide) (Int.natCast_nonneg squares)
  have hbelow : Binary64.Below quarter half :=
    Binary64.below_quotient?_of_mul_le (Int.natCast_nonneg squares) (by decide) (by decide)
      hfraction hquarter hhalf
  exact max_le_max_left 1 (hbelow.floor?_half_le hfew hmany).2

theorem RuleMatch.defaultTargets?_spread_le_close {m : RuleMatch} {spread close : Int}
    (hspread : m.defaultTargets? false = .ok spread)
    (hclose : m.defaultTargets? true = .ok close) : spread ≤ close := by
  rw [defaultTargets?] at hspread hclose
  cases htargets : m.targets with
  | none =>
      rw [htargets] at hspread hclose
      exact enemiesIn?_spread_le_close hspread hclose
  | some n =>
      rw [htargets] at hspread hclose
      exact (Except.ok.inj (hspread.symm.trans hclose)).le

/-- Two estimates of one text have no match and one target each, or they have one match. -/
theorem estimate?_pair_cases {text : List Char} {context context' : Context}
    {clustered clustered' : Bool} {e e' : TargetEstimate}
    (h : estimate? text context clustered = .ok e)
    (h' : estimate? text context' clustered' = .ok e') :
    e = ⟨1, 1, none⟩ ∧ e' = ⟨1, 1, none⟩ ∨ ∃ m default default',
      m.defaultTargets? clustered = .ok default ∧ m.defaultTargets? clustered' = .ok default' ∧
        e = ⟨if 1 < context.expectedTargets.val then
          min context.expectedTargets.val m.maxTargets else default, m.maxTargets, some m⟩ ∧
        e' = ⟨if 1 < context'.expectedTargets.val then
          min context'.expectedTargets.val m.maxTargets else default', m.maxTargets, some m⟩ := by
  rcases estimate?_eq_ok_iff.1 h with ⟨hnone, he⟩ | ⟨m, default, hm, hdefault, he⟩ <;>
    rcases estimate?_eq_ok_iff.1 h' with ⟨hnone', he'⟩ | ⟨m', default', hm', hdefault', he'⟩
  · exact .inl ⟨he, he'⟩
  · exact nomatch hnone.symm.trans hm'
  · exact nomatch hm.symm.trans hnone'
  · obtain rfl := Option.some.inj (Except.ok.inj (hm.symm.trans hm'))
    exact .inr ⟨m, default, default', hdefault, hdefault', he, he'⟩

/-- Estimates of one text for enemies who are spread out and for enemies who stand close together
have the same match and the same most targets, and the close enemies are no fewer targets. Of two
contexts that ask for more than one target each and differ only in how many, the one that asks
for more never gets fewer. -/
theorem estimate?_crowding (text : List Char) (context : Context) :
    (∀ spread close, estimate? text context false = .ok spread →
      estimate? text context true = .ok close →
        close.source = spread.source ∧ close.maxTargets = spread.maxTargets ∧
          spread.targets ≤ close.targets) ∧
    ∀ (more : Record.AtLeast 1) (clustered : Bool) (few many : TargetEstimate),
      1 < context.expectedTargets.val → context.expectedTargets.val ≤ more.val →
        estimate? text context clustered = .ok few →
          estimate? text { context with expectedTargets := more } clustered = .ok many →
            few.targets ≤ many.targets := by
  constructor
  · intro spread close hspread hclose
    rcases estimate?_pair_cases hspread hclose with
      ⟨rfl, rfl⟩ | ⟨m, default, default', hdefault, hdefault', rfl, rfl⟩
    · exact ⟨rfl, rfl, le_rfl⟩
    · refine ⟨rfl, rfl, ?_⟩
      have hle := RuleMatch.defaultTargets?_spread_le_close hdefault hdefault'
      split
      · exact le_rfl
      · exact hle
  · intro more clustered few many hone hmore hfew hmany
    rcases estimate?_pair_cases hfew hmany with ⟨rfl, rfl⟩ | ⟨m, -, -, -, -, rfl, rfl⟩
    · exact le_rfl
    · simp only [if_pos hone, if_pos (hone.trans_le hmore)]
      exact min_le_min_right _ hmore

/-- In a sphere of twenty feet, twice as many enemies stand close together. Of a hundred targets
asked for it has fifty-two. -/
theorem estimate?_crowding_sphere :
    let text := "a 20-foot-radius sphere".toList
    let m : RuleMatch := ⟨.radius, 52, none, some (.sphere, 20)⟩
    let five : Context := { expectedTargets := ⟨5, by decide⟩ }
    let hundred : Record.AtLeast 1 := ⟨100, by decide⟩
    estimate? text {} false = .ok ⟨13, 52, some m⟩ ∧ estimate? text {} true = .ok ⟨26, 52, some m⟩ ∧
      (13 : Int) ≤ 26 ∧ 1 < five.expectedTargets.val ∧
      five.expectedTargets.val ≤ hundred.val ∧
      estimate? text five true = .ok ⟨5, 52, some m⟩ ∧
      estimate? text { five with expectedTargets := hundred } true = .ok ⟨52, 52, some m⟩ ∧
      (5 : Int) ≤ 52 := by
  intro text m five hundred
  have hspread : estimate? text {} false = .ok ⟨13, 52, some m⟩ := by decide +kernel
  have hclose : estimate? text {} true = .ok ⟨26, 52, some m⟩ := by decide +kernel
  have hfive : estimate? text five true = .ok ⟨5, 52, some m⟩ := by decide +kernel
  have hhundred : estimate? text { five with expectedTargets := hundred } true =
      .ok ⟨52, 52, some m⟩ := by
    decide +kernel
  have hone : 1 < five.expectedTargets.val := by decide
  have hmore : five.expectedTargets.val ≤ hundred.val := by decide
  obtain ⟨-, -, hcrowded⟩ := (estimate?_crowding text {}).1 _ _ hspread hclose
  have hasked := (estimate?_crowding text five).2 hundred true _ _ hone hmore hfive hhundred
  exact ⟨hspread, hclose, hcrowded, hone, hmore, hfive, hhundred, hasked⟩

end ExpectedDamage.Area
