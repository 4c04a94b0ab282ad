import ExpectedDamage.Proofs.Area.Magnitude
import ExpectedDamage.Proofs.Dice.Magnitude
import ExpectedDamage.Proofs.Spell.Analysis
/-!
# Castings of an ordinary magnitude

The figures of a casting grow at most like the product of its average, its targets and its
rounds. A casting whose numbers are far larger than any that a game has, but have not
hundreds of digits, is `Ordinary`: it is calculable in every context, and so its analysis
ends with a verdict (`exists_analyze?_of_ordinary`).
-/

namespace ExpectedDamage.Spell

open Combat (Context)
open Binary64

attribute [local irreducible] grainsPerUnit grainLimit roundLimit

/-! The figures. -/

/-- The expected damage to one target is not larger than four average rolls. -/
theorem Resolution.within_expected (r : Resolution) {average : Binary64} {k : Nat}
    (h : Within average (2 ^ k)) (hk : k + 2 ≤ 970) :
    Within (r.expected average) (2 ^ (k + 2)) := by
  have hfull : Within (average * r.chance) (2 ^ k) := h.mul_pow r.within_chance (by omega)
  cases r with
  | attack bonus armor =>
      have hcrit : Within (0.05 : Binary64) (2 ^ 0) := ⟨by decide +kernel, by decide +kernel⟩
      exact (hfull.add_pow (h.mul_pow hcrit (by omega)) (by omega)).mono_pow (by omega)
  | save difficulty bonus half =>
      have hone : Within (1.0 : Binary64) (2 ^ 0) := ⟨by decide +kernel, by decide +kernel⟩
      have hhalf : Within (0.5 : Binary64) (2 ^ 0) := ⟨by decide +kernel, by decide +kernel⟩
      have hsaved := hone.sub_pow (Resolution.save difficulty bonus half).within_chance (by decide)
      have hrest := (h.mul_pow hsaved (by omega)).mul_pow hhalf (by omega)
      rw [expected]
      split
      · exact (hfull.mono_pow (Nat.le_succ k)).add_pow hrest (by omega)
      · exact hfull.mono_pow (by omega)
  | sure => exact hfull.mono_pow (by omega)

/-- A chain goes on after at most every second hit. -/
theorem two_le_oneIn {s : Spell} {c : Chain} (h : s.correction?.bind (·.chain) = some c) :
    2 ≤ c.oneIn := by
  have htable : ∀ entry ∈ corrections, ∀ c ∈ entry.2.chain, 2 ≤ c.oneIn := by decide
  obtain ⟨correction, hcorrection, hchain⟩ := Option.bind_eq_some_iff.1 h
  obtain ⟨entry, hentry, rfl⟩ := Option.map_eq_some_iff.1 hcorrection
  exact htable entry (List.mem_of_find?_eq_some hentry) c hchain

theorem attained_half : Attained (1 / 2) := ⟨0.5, by decide +kernel, by decide +kernel⟩

theorem Chain.within_chance {c : Chain} (h : 2 ≤ c.oneIn) : Within c.chance (1 / 2) := by
  have h : (2 : Rat) ≤ c.oneIn := by exact_mod_cast h
  have hround : Rounds (quotient 1 c.oneIn) ((1 : Int) / (c.oneIn : Int)) :=
    rounds_quotient (by omega)
  refine hround.within ?_ attained_half
  push_cast
  rw [abs_of_nonneg (by positivity)]
  exact one_div_le_one_div_of_le (by norm_num) h

/-- What a chance of at most one half leaves is at least one half. -/
theorem half_le_one_sub {x : Binary64} (h : Within x (1 / 2)) :
    (1.0 - x).IsFinite ∧ 1 / 2 ≤ (1.0 - x).value := by
  have hone : Within (1.0 : Binary64) (2 ^ 0) := ⟨by decide +kernel, by decide +kernel⟩
  have hvalue : (1.0 : Binary64).value = 1 := by decide +kernel
  have hhalf : (0.5 : Binary64).value = 1 / 2 := by decide +kernel
  have hfinite := (hone.sub_pow (h.mono (by norm_num)) (by decide)).isFinite
  have hround : Rounds (1.0 - x) ((1.0 : Binary64).value + (-x).value) :=
    rounds_add hone.isFinite h.neg.isFinite
  have hrest := (abs_le.1 h.neg.abs_value_le).1
  have hle := hround.le_value hfinite (z := 0.5) (by decide +kernel) (by decide +kernel)
    (by rw [hhalf, hvalue]; linarith)
  exact ⟨hfinite, hhalf ▸ hle⟩

/-- The bonus of a chain that goes on after at most every second hit. -/
theorem within_chainBonus {average chainChance chance : Binary64} {k : Nat}
    (h : Within average (2 ^ k)) (hk : k + 2 ≤ 970) (hchain : Within chainChance (1 / 2))
    (hchance : Within chance (2 ^ 0)) :
    Within (chainBonus average chainChance chance) (2 ^ (k + 2)) := by
  have hstep : Within (chainChance * chance) (1 / 2) := by
    have hproduct := hchain.mul hchance
    rw [pow_zero, mul_one] at hproduct
    exact hproduct attained_half
  have hzero : Within (0.0 : Binary64) (2 ^ 0) := ⟨by decide +kernel, by decide +kernel⟩
  have hcrit : Within (1.0 + 0.05 : Binary64) (2 ^ 1) := ⟨by decide +kernel, by decide +kernel⟩
  obtain ⟨hfinite, hhalf⟩ := half_le_one_sub hstep
  have hlinks := (h.mul_pow hcrit (by omega)).mul_pow
    (hstep.mono (show 1 / 2 ≤ 2 ^ 0 by norm_num)) (by omega)
  rw [chainBonus]
  split
  · exact hzero.mono_pow (Nat.zero_le _)
  · exact hlinks.div_pow hfinite hhalf (by omega)

/-- The figures of a casting whose average has at most `k` bits and whose targets have at
most `j`. -/
theorem within_figures? {r : Resolution} {average : Binary64} {targets : Int}
    {chain : Option Chain} {figures : Figures Binary64} {k j : Nat} (h : Within average (2 ^ k))
    (htargets : |(targets : Rat)| ≤ 2 ^ j) (hkj : k + j + 3 ≤ 970)
    (hchain : ∀ c ∈ chain, 2 ≤ c.oneIn)
    (hfigures : figures? r average targets chain = .ok figures) :
    Within figures.expected (2 ^ (k + 2)) ∧ (∀ bonus ∈ figures.chain, Within bonus (2 ^ (k + 2))) ∧
      Within figures.total (2 ^ (k + j + 3)) := by
  obtain ⟨count, hcount, hfigures⟩ := bind_eq_ok_iff.1 hfigures
  obtain rfl := Except.ok.inj hfigures
  have hexpected := r.within_expected h (by omega)
  have hcount : Within count (2 ^ j) :=
    within_of_quotient? hcount (by rwa [Int.cast_one, div_one]) (attained_pow (by omega))
  have hall := hexpected.mul_pow hcount (by omega)
  refine ⟨hexpected, ?_, ?_⟩
  · intro bonus hbonus
    obtain ⟨c, hc, rfl⟩ := Option.map_eq_some_iff.1 hbonus
    exact within_chainBonus h (by omega) (Chain.within_chance (hchain c hc)) r.within_chance
  · cases chain with
    | none => exact hall.mono_pow (by omega)
    | some c =>
        have hbonus := within_chainBonus h (by omega) (Chain.within_chance (hchain c rfl))
          r.within_chance
        exact ((hall.mono_pow (k := k + j + 2) (by omega)).add_pow
          (hbonus.mono_pow (by omega)) (by omega))

/-! Castings. -/

/-- A casting whose numbers have an ordinary size. -/
structure Ordinary (s : Spell) (castLevel : Option Int) (dice : Dice.Expression) : Prop where
  dice : dice.size ≤ 2 ^ 53
  area : Area.SizeWithin s.wording 200
  slot : ∀ level ∈ castLevel, level ≤ 2 ^ 200
  duration : ∃ n, rounds? s.duration = .ok n ∧ n ≤ 2 ^ 200

/-- A casting of ordinary numbers is calculable in every context. -/
theorem Ordinary.calculable {s : Spell} {castLevel : Option Int} {dice : Dice.Expression}
    (h : s.Ordinary castLevel dice) (hdice : dice.Valid) (context : Context) :
    s.Calculable context castLevel dice := by
  obtain ⟨hterms, hmodifier⟩ := Dice.Expression.averageable_of_size_le hdice h.dice
  refine ⟨hterms, hmodifier, ?_, ?_, ?_⟩
  · intro rule template digits hfirst
    obtain ⟨size, hsize, hle⟩ := h.area rule template digits hfirst
    obtain ⟨squares, hsquares, -⟩ := template.exists_squares? hle (by decide)
    exact ⟨size, squares, hsize, hsquares⟩
  · intro level hlevel
    have hle : (level : Rat) ≤ 2 ^ 200 := by exact_mod_cast h.slot level hlevel
    exact hle.trans_lt (pow_lt_limit (by decide))
  · intro average estimate figures haverage hestimate hfigures
    have hwithin : Within average (2 ^ 53) :=
      (Dice.Expression.within_mean? hdice h.dice haverage).mono (by exact_mod_cast h.dice)
    obtain ⟨hexpected, hchain, htotal⟩ := within_figures? hwithin
      (Area.abs_targets_le h.area (by decide) hestimate) (by decide)
      (fun c hc => two_le_oneIn hc) hfigures
    refine ⟨hexpected.showable (by decide), htotal.showable (by decide), ?_, ?_⟩
    · exact fun bonus hbonus => (hchain bonus hbonus).showable (by decide)
    · intro _ _
      obtain ⟨n, hn, hle⟩ := h.duration
      have hle : (n : Rat) ≤ 2 ^ 200 := by exact_mod_cast hle
      have hrounds : Within (quotient n 1) (2 ^ 200) := by
        refine (rounds_quotient Int.one_ne_zero).within ?_ (attained_pow (by decide))
        rwa [Int.cast_one, div_one, Int.cast_natCast, Nat.abs_cast]
      exact ⟨n, hn, hle.trans_lt (pow_lt_limit (by decide)),
        (htotal.mul_pow hrounds (by decide)).showable (by decide)⟩

/-- The analysis of a casting of ordinary numbers ends with a verdict in every context, as
does that of a casting whose roll can be read but is no expression. -/
theorem exists_analyze?_of_ordinary {s : Spell} {castLevel : Option Int}
    (h : ∀ recorded ∈ s.damageRoll, ∃ roll parsed, s.castRoll? recorded castLevel = .ok roll ∧
      Dice.Expression.parse? roll = .ok parsed ∧ ∀ dice ∈ parsed, s.Ordinary castLevel dice)
    (context : Context) : ∃ a, s.analyze? context castLevel = .ok a := by
  refine exists_analyze?_iff_verdict.2 (exists_verdict?_iff.2 fun recorded hrecorded _ => ?_)
  obtain ⟨roll, parsed, hroll, hparse, hordinary⟩ := h recorded hrecorded
  refine ⟨roll, parsed, hroll, hparse, fun dice hdice => ?_⟩
  obtain rfl : parsed = some dice := hdice
  exact (hordinary dice rfl).calculable (Dice.valid_of_parse? hparse) context

end ExpectedDamage.Spell
