import ExpectedDamage.Proofs.Breakpoint.PowerTrade
import ExpectedDamage.Proofs.Breakpoint.Table
/-!
# The advice on power attacks

A table of a power attack is the sweep of a trade (`exists_trade_of_powerAttack?`), and the
trade has a valley with its bottom fifteen above the attack bonus. So the advice to use the
power attack up to the breakpoint is right for some attacks and wrong for others, and the
recommendations at two armor classes tell them apart.
-/

namespace ExpectedDamage.Breakpoint

open Combat Binary64

theorem AttackForm.attack?_eq_ok {bonus : Int} {damage : Amount} {edge : Edge}
    {a : Attack Binary64} (h : AttackForm.attack? { bonus, damage } edge = .ok a) :
    ∃ x, damage.toReal? = .ok x ∧ a = Attack.plain bonus x edge := by
  obtain ⟨x, hx, h⟩ := bind_eq_ok_iff.1 h
  have hzero : (Amount.whole 0).toReal? = .ok (quotient 0 1) := by
    have hone : ¬ (1 : Int) = 0 := by decide
    have hfinite : ¬ (quotient 0 1).isInfinite = true := by decide +kernel
    rw [Amount.toReal?, ofInt?, quotient?, if_neg hone, if_neg hfinite]
  obtain ⟨critDamage, hcritDamage, h⟩ := bind_eq_ok_iff.1 h
  obtain rfl : quotient 0 1 = critDamage := Except.ok.inj (hzero.symm.trans hcritDamage)
  exact ⟨x, hx, (Except.ok.inj h).symm⟩

/-- What a row of the sweep tells about the trade. -/
structure RowOf (edge : Edge) (bonus : Int) (plain powered : Binary64) (armor : Int)
    (row : Row) : Prop where
  armor_eq : row.armor = armor
  recommended_iff : row.recommended = true ↔ Pays edge bonus plain powered armor
  swings : Swings edge bonus plain powered armor

theorem rowOf_of_eq_ok {edge : Edge} {bonus : Int} {plain powered : Binary64} {armor : Int}
    {row : Row}
    (h : (do
      let normal ← (Attack.plain bonus plain edge).expectedDamage? armor
      let modified ← (Attack.plain (bonus - 5) powered edge).expectedDamage? armor
      return ({
        armor, baseline := ← roundDamage? normal, modified := ← roundDamage? modified
        recommended := normal < modified, difference := ← roundDamage? (modified - normal)
        extraTaken := 0.0 } : Row)) = .ok row) :
    RowOf edge bonus plain powered armor row := by
  rw [Attack.expectedDamage?_plain readsConstants_binary64,
    Attack.expectedDamage?_plain readsConstants_binary64] at h
  obtain ⟨normal, hnormal, h⟩ := bind_eq_ok_iff.1 h
  obtain ⟨modified, hmodified, h⟩ := bind_eq_ok_iff.1 h
  obtain ⟨baseline, hbaseline, h⟩ := bind_eq_ok_iff.1 h
  obtain ⟨shown, hshown, h⟩ := bind_eq_ok_iff.1 h
  obtain ⟨difference, -, h⟩ := bind_eq_ok_iff.1 h
  obtain rfl := Except.ok.inj hnormal
  obtain rfl := Except.ok.inj hmodified
  obtain rfl := Except.ok.inj h
  exact ⟨rfl, decide_eq_true_iff, isFinite_of_roundDamage? hbaseline,
    isFinite_of_roundDamage? hshown⟩

/-- A table of a power attack is the sweep of a trade. -/
theorem exists_trade_of_powerAttack? {bonus : Int} {damage : Amount} {edge : Edge} {t : Table}
    (hdamage : damage.Nonneg) (h : powerAttack? { bonus, damage } edge = .ok t) :
    ∃ plain powered, Raised plain powered ∧
      (∀ armor, 10 ≤ armor → armor ≤ 25 → Swings edge bonus plain powered armor) ∧
        Sweep t (Pays edge bonus plain powered) := by
  obtain ⟨attack, hattack, h⟩ := bind_eq_ok_iff.1 h
  obtain ⟨plain, hplain, rfl⟩ := AttackForm.attack?_eq_ok hattack
  obtain ⟨attack', hattack', h⟩ := bind_eq_ok_iff.1 h
  obtain ⟨powered, hpowered, rfl⟩ := AttackForm.attack?_eq_ok hattack'
  obtain ⟨rows, hrows, h⟩ := bind_eq_ok_iff.1 h
  obtain rfl := Except.ok.inj h
  have hsweep : Sweep ⟨rows⟩ (Pays edge bonus plain powered) := by
    constructor
    · have hmap := map_eq_of_mapM_eq_ok (g := Row.armor) (k := id)
        (fun armor row hrow => (rowOf_of_eq_ok hrow).armor_eq) hrows
      rwa [List.map_id] at hmap
    · intro row hrow
      obtain ⟨armor, -, harmor⟩ := exists_of_mem_of_mapM_eq_ok hrows hrow
      have hrowOf := rowOf_of_eq_ok harmor
      rw [hrowOf.recommended_iff, hrowOf.armor_eq]
  have hswings : ∀ armor, 10 ≤ armor → armor ≤ 25 → Swings edge bonus plain powered armor := by
    intro armor hlow hhigh
    obtain ⟨row, hrow, rfl⟩ := hsweep.exists_row hlow hhigh
    obtain ⟨armor, -, harmor⟩ := exists_of_mem_of_mapM_eq_ok hrows hrow
    have hrowOf := rowOf_of_eq_ok harmor
    rw [hrowOf.armor_eq]
    exact hrowOf.swings
  have hfirst := hswings 10 (by decide) (by decide)
  have hfinite := isFinite_of_damageAt hfirst.plain
  have hfinite' := isFinite_of_damageAt hfirst.powered
  have hnear := Amount.abs_raise_sub_le hdamage hplain hpowered hfinite hfinite'
  push_cast at hnear
  exact ⟨plain, powered, ⟨Amount.nonneg_value hdamage hplain hfinite, by linarith⟩, hswings,
    hsweep⟩

theorem valley_pays {edge : Edge} (hedge : edge ≠ .disadvantage) {bonus : Int}
    {plain powered : Binary64} (hraised : Raised plain powered)
    (hswings : ∀ armor, 10 ≤ armor → armor ≤ 25 → Swings edge bonus plain powered armor) :
    Valley (Pays edge bonus plain powered) (bonus + 15) where
  down armor hlow hhigh hbottom :=
    pays_of_pays_succ hedge hraised (hswings armor hlow (by omega))
      (hswings (armor + 1) (by omega) (by omega)) (by omega)
  up armor hlow hhigh hbottom :=
    pays_succ_of_pays hedge hraised (hswings armor hlow (by omega))
      (hswings (armor + 1) (by omega) (by omega)) (by omega)

/-- Whether a power attack is recommended everywhere up to the breakpoint can be told from
two armor classes, the one fifteen above the attack bonus and the last one: the advice is
right exactly if the attack bonus is ten or more, or the power attack is not recommended at
the last class, or it is at the other one. -/
theorem powerAttack?_advised_iff {bonus : Int} {damage : Amount} {advantage : Bool} {t : Table}
    (hdamage : damage.Nonneg)
    (h : powerAttack? { bonus, damage } (.ofFlags advantage false) = .ok t) :
    t.Advised ↔ 10 ≤ bonus ∨ ¬ t.Recommends 25 ∨ t.Recommends (max 10 (bonus + 15)) := by
  have hedge : Edge.ofFlags advantage false ≠ .disadvantage := by cases advantage <;> decide
  obtain ⟨plain, powered, hraised, hswings, hsweep⟩ := exists_trade_of_powerAttack? hdamage h
  rw [hsweep.advised_iff_of_valley (valley_pays hedge hraised hswings)]
  have hbonus : 25 ≤ bonus + 15 ↔ 10 ≤ bonus := by omega
  rw [hbonus]

/-- With a bonus of five and ten damage, the power attack is recommended against the armor
class 25, and therefore advised against 20, where it is not recommended. -/
theorem powerAttack?_advised_iff_five :
    (Amount.whole 10).Nonneg ∧
      ∃ t, powerAttack? { bonus := 5, damage := .whole 10 } (.ofFlags false false) = .ok t ∧
        t.Recommends 25 ∧ ¬ t.Recommends 20 ∧ ¬ t.Advised := by
  have hcheck : (match powerAttack? { bonus := 5, damage := .whole 10 } (.ofFlags false false) with
      | .ok t => decide (t.Recommends 25 ∧ ¬ t.Recommends 20)
      | .error _ => false) = true := by decide +kernel
  have hdamage : (Amount.whole 10).Nonneg := by decide
  cases h : powerAttack? { bonus := 5, damage := .whole 10 } (.ofFlags false false) with
  | error fault =>
      rw [h] at hcheck
      exact nomatch hcheck
  | ok t =>
      rw [h, decide_eq_true_iff] at hcheck
      obtain ⟨hlast, hbottom⟩ := hcheck
      have hiff := powerAttack?_advised_iff hdamage h
      refine ⟨hdamage, t, rfl, hlast, hbottom, fun hadvised => ?_⟩
      rcases hiff.1 hadvised with hbonus | hnot | hrecommends
      · exact absurd hbonus (by decide)
      · exact hnot hlast
      · exact hbottom hrecommends

end ExpectedDamage.Breakpoint
