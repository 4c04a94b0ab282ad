import ExpectedDamage.Area.Estimate
import ExpectedDamage.Proofs.Number.Range
import ExpectedDamage.Proofs.Text.FirstPlace
/-!
# Estimates that succeed

An estimate can fail only on the size of the area that is found first: its digits may be
too many, and its squares too large (`exists_estimate?_iff`). Counts are small, squares that
are found are within the range of binary64 numbers, and so are the targets among them.
-/

namespace ExpectedDamage

namespace Area

open Binary64 Text

/-! Counts. -/

theorem numberWords_bounds : ∀ entry ∈ numberWords, 1 ≤ entry.2 ∧ entry.2 ≤ 6 := by decide

theorem projectiles?_bounds {text : List Char} {n : Nat} (h : projectiles? text = some n) :
    1 ≤ n ∧ n ≤ 6 := by
  obtain ⟨-, place, -, hplace, -⟩ := firstIn?_eq_some_iff.1 h
  obtain ⟨⟨word, number⟩, hmem, hnumber⟩ := List.exists_of_findSome?_eq_some hplace
  obtain ⟨rest, -, hnumber⟩ := Option.bind_eq_some_iff.1 hnumber
  split at hnumber
  · exact Option.some.inj hnumber ▸ numberWords_bounds _ hmem
  · exact nomatch hnumber

theorem countedCreatures?_bounds {text : List Char} {n : Nat}
    (h : countedCreatures? text = some n) : 1 ≤ n ∧ n ≤ 6 := by
  obtain ⟨⟨word, number⟩, hmem, hnumber⟩ := List.exists_of_findSome?_eq_some h
  have hmem := numberWords_bounds _ (List.mem_of_mem_take hmem)
  dsimp only at hnumber
  split at hnumber
  · exact Option.some.inj hnumber ▸ hmem
  · exact nomatch hnumber

/-- Counts are between one and twenty. -/
def Finding.IsSmall : Finding → Prop
  | .area .. => True
  | .count targets most => 1 ≤ targets ∧ targets ≤ most ∧ most ≤ 20

theorem isSmall_exactly {n : Nat} (h : 1 ≤ n ∧ n ≤ 6) :
    (TargetRule.exactly n).IsSmall := ⟨h.1, Nat.le_refl n, by omega⟩

theorem isSmall_of_map_area {template : Template} {size : Option (List Char)}
    {finding : Finding} (h : size.map (.area template) = some finding) : finding.IsSmall := by
  obtain ⟨digits, -, rfl⟩ := Option.map_eq_some_iff.1 h
  trivial

/-- A size that cannot be found is a single target. -/
theorem isSmall_getD_area (template : Template) (size : Option (List Char)) :
    ((size.map (Finding.area template)).getD (TargetRule.exactly 1)).IsSmall := by
  cases size with
  | none => exact isSmall_exactly (by decide)
  | some digits => trivial

theorem TargetRule.isSmall_of_find? {rule : TargetRule} {text : List Char} {finding : Finding}
    (h : rule.find? text = some finding) : finding.IsSmall := by
  unfold find? at h
  cases rule with
  | cone => exact isSmall_of_map_area h
  | cylinder =>
      simp only at h
      split at h
      · exact Option.some.inj h ▸ isSmall_getD_area _ _
      · exact nomatch h
  | distance => exact isSmall_of_map_area h
  | cube => exact isSmall_of_map_area h
  | line =>
      simp only at h
      split at h
      · exact Option.some.inj h ▸ isSmall_getD_area _ _
      · exact nomatch h
  | radius =>
      simp only at h
      split at h
      · exact nomatch h
      · exact isSmall_of_map_area h
  | chain =>
      simp only at h
      split at h
      · exact Option.some.inj h ▸ isSmall_exactly (by decide)
      · exact nomatch h
  | projectiles =>
      obtain ⟨n, hn, rfl⟩ := Option.map_eq_some_iff.1 h
      exact isSmall_exactly (projectiles?_bounds hn)
  | counted =>
      obtain ⟨n, hn, rfl⟩ := Option.map_eq_some_iff.1 h
      exact isSmall_exactly (countedCreatures?_bounds hn)
  | eachCreature =>
      simp only at h
      split at h
      · exact Option.some.inj h ▸ ⟨by decide, by decide, by decide⟩
      · exact nomatch h
  | single =>
      simp only at h
      split at h
      · exact Option.some.inj h ▸ isSmall_exactly (by decide)
      · exact nomatch h

theorem isSmall_of_firstFinding? {text : List Char} {rule : TargetRule} {finding : Finding}
    (h : firstFinding? text = some (rule, finding)) : finding.IsSmall := by
  obtain ⟨rule', -, hrule⟩ := List.exists_of_findSome?_eq_some h
  obtain ⟨finding', hfind, heq⟩ := Option.map_eq_some_iff.1 hrule
  obtain ⟨rfl, rfl⟩ := Prod.mk.inj heq
  exact TargetRule.isSmall_of_find? hfind

/-! Squares. -/

attribute [local irreducible] grainsPerUnit grainLimit roundLimit

theorem lt_limit_of_le {n : Nat} (h : n ≤ 200) : (n : Rat) < limit := by
  have hlimit : (200 : Rat) < limit := by
    have hshow : Showable 2 := isFinite_mul_hundred_iff.1 (by decide +kernel)
    have hvalue : |(2 : Binary64).value| * 100 = 200 := by decide +kernel
    exact hvalue ▸ hshow.lt_limit
  have hn : (n : Rat) ≤ 200 := by exact_mod_cast h
  exact hn.trans_lt hlimit

/-- A whole number that was rounded up is within the range. -/
theorem lt_limit_of_roundUp? {x : Binary64} {n : Nat} (h : Template.roundUp? x = .ok n) :
    (n : Rat) < limit := by
  obtain ⟨m, hm, rfl⟩ := map_eq_ok_iff.1 h
  obtain ⟨hfinite, rfl⟩ := floor?_eq_ok_iff.1 hm
  have hlimit := abs_value_lt_limit hfinite
  rcases Int.le_total 0 ⌊(x + 0.5).value⌋ with hnonneg | hneg
  · have hcast : ((⌊(x + 0.5).value⌋.toNat : Int) : Rat) = ⌊(x + 0.5).value⌋ := by
      rw [Int.toNat_of_nonneg hnonneg]
    calc (⌊(x + 0.5).value⌋.toNat : Rat) = ⌊(x + 0.5).value⌋ := by exact_mod_cast hcast
      _ ≤ (x + 0.5).value := Int.floor_le _
      _ ≤ |(x + 0.5).value| := le_abs_self _
      _ < limit := hlimit
  · rw [Int.toNat_of_nonpos hneg]
    exact lt_limit_of_le (by decide)

namespace Template

/-- The entries of the tables in which a size is looked up. -/
def entries : Template → List (Nat × Nat)
  | cylinder => Shape.cylinder.table ++ Shape.sphere.table
  | t => t.shape.table

theorem mem_entries_of_listed? {t : Template} {size squares : Nat}
    (h : t.listed? size = some squares) : (size, squares) ∈ t.entries := by
  have htable : ∀ s : Shape, s.listed? size = some squares → (size, squares) ∈ s.table := by
    intro s hlisted
    obtain ⟨entry, hfind, rfl⟩ := Option.map_eq_some_iff.1 hlisted
    have hsize := List.find?_some hfind
    obtain rfl : entry.1 = size := eq_of_beq hsize
    exact List.mem_of_find?_eq_some hfind
  cases t with
  | cylinder =>
      have h : (Shape.cylinder.listed? size <|> Shape.sphere.listed? size) = some squares := h
      rcases (Option.orElse_eq_some _ _ _).1 h with hown | ⟨-, hsphere⟩
      · exact List.mem_append_left _ (htable .cylinder hown)
      · exact List.mem_append_right _ (htable .sphere hsphere)
  | _ => exact htable _ h

theorem le_of_listed? {t : Template} {size squares : Nat} (h : t.listed? size = some squares) :
    squares ≤ 200 := by
  have hentries : ∀ entry ∈ t.entries, entry.2 ≤ 200 := by cases t <;> decide
  exact hentries _ (mem_entries_of_listed? h)

theorem lt_limit_of_squares? {t : Template} {size squares : Nat}
    (h : t.squares? size = .ok squares) : (squares : Rat) < limit := by
  rw [squares?] at h
  split at h
  · next listed hlisted => exact lt_limit_of_le (Except.ok.inj h ▸ le_of_listed? hlisted)
  · cases t with
    | cylinder => exact lt_limit_of_le (Except.ok.inj h ▸ by decide)
    | cone =>
        obtain ⟨x, -, h⟩ := bind_eq_ok_iff.1 h
        exact lt_limit_of_roundUp? h
    | line =>
        obtain ⟨x, -, h⟩ := bind_eq_ok_iff.1 h
        exact lt_limit_of_roundUp? h
    | emanation =>
        obtain ⟨x, -, h⟩ := bind_eq_ok_iff.1 h
        obtain ⟨y, -, h⟩ := bind_eq_ok_iff.1 h
        exact lt_limit_of_roundUp? h
    | cube =>
        obtain ⟨x, -, h⟩ := bind_eq_ok_iff.1 h
        obtain ⟨y, -, h⟩ := bind_eq_ok_iff.1 h
        exact lt_limit_of_roundUp? h
    | burst =>
        obtain ⟨x, -, h⟩ := bind_eq_ok_iff.1 h
        obtain ⟨y, -, h⟩ := bind_eq_ok_iff.1 h
        exact lt_limit_of_roundUp? h

end Template

/-! Targets. -/

/-- An area is measured if its size can be read and its squares are within the range. -/
theorem measure?_area_eq_ok_iff {rule : TargetRule} {t : Template} {digits : List Char}
    {m : RuleMatch} : (Finding.area t digits).measure? rule = .ok m ↔ ∃ squares,
      digits.length ≤ WholeText.digitLimit ∧ t.squares? (digitsValue digits) = .ok squares ∧
        m = ⟨rule, squares, none, some (t.shape, digitsValue digits)⟩ := by
  rw [Finding.measure?]
  simp only [bind_eq_ok_iff, WholeText.value?_eq_ok_iff]
  constructor
  · rintro ⟨_, ⟨hlength, rfl⟩, squares, hsquares, h⟩
    exact ⟨squares, hlength, hsquares, (Except.ok.inj h).symm⟩
  · rintro ⟨squares, hlength, hsquares, rfl⟩
    exact ⟨_, ⟨hlength, rfl⟩, squares, hsquares, rfl⟩

theorem TargetRule.match?_ne_none_iff {rule : TargetRule} {text : List Char} :
    rule.match? text ≠ .ok none ↔ (rule.find? text).isSome = true := by
  rw [TargetRule.match?]
  cases rule.find? text with
  | none => exact iff_of_false (fun h => h rfl) Bool.false_ne_true
  | some finding =>
      refine iff_of_true (fun h => ?_) rfl
      obtain ⟨m, -, hm⟩ := map_eq_ok_iff.1 h
      exact nomatch hm

theorem TargetRule.match?_eq_ok_some_iff {rule : TargetRule} {text : List Char} {m : RuleMatch} :
    rule.match? text = .ok (some m) ↔
      ∃ finding, rule.find? text = some finding ∧ finding.measure? rule = .ok m := by
  rw [TargetRule.match?]
  cases rule.find? text with
  | none => exact iff_of_false nofun fun ⟨_, hfound, _⟩ => nomatch hfound
  | some finding =>
      refine map_eq_ok_iff.trans ⟨?_, ?_⟩
      · rintro ⟨m, hmeasure, ⟨⟩⟩
        exact ⟨finding, rfl, hmeasure⟩
      · rintro ⟨_, ⟨⟩, hmeasure⟩
        exact ⟨m, hmeasure, rfl⟩

/-- A match has no more targets than it can have at most. -/
theorem targets_le_of_measure? {rule : TargetRule} {finding : Finding} {m : RuleMatch}
    (hsmall : finding.IsSmall) (h : finding.measure? rule = .ok m) :
    ∀ n ∈ m.targets, n ≤ m.maxTargets := by
  cases finding with
  | area template digits =>
      obtain ⟨squares, -, -, rfl⟩ := measure?_area_eq_ok_iff.1 h
      exact nofun
  | count targets most =>
      obtain rfl := Except.ok.inj h
      intro n hn
      exact Option.some.inj hn ▸ hsmall.2.1

/-- The most that a match can have is within the range. -/
theorem lt_limit_of_measure? {rule : TargetRule} {finding : Finding} {m : RuleMatch}
    (hsmall : finding.IsSmall) (h : finding.measure? rule = .ok m) :
    (m.maxTargets : Rat) < limit := by
  cases finding with
  | area template digits =>
      obtain ⟨squares, -, hsquares, rfl⟩ := measure?_area_eq_ok_iff.1 h
      exact Template.lt_limit_of_squares? hsquares
  | count targets most =>
      obtain rfl := Except.ok.inj h
      exact lt_limit_of_le (hsmall.2.2.trans (by decide))

/-- Squares within the range have enemies among them. -/
theorem exists_enemiesIn? {squares : Nat} (h : (squares : Rat) < limit) (clustered : Bool) :
    ∃ n, enemiesIn? squares clustered = .ok n := by
  have hdensity : density clustered ≠ 0 := by cases clustered <;> decide
  have hone : (1 : Rat) ≤ density clustered := by cases clustered <;> decide
  have hlimit : |((squares : Int) / density clustered : Rat)| < limit := by
    rw [Int.cast_natCast, abs_of_nonneg (by positivity)]
    exact (div_le_self (Nat.cast_nonneg squares) hone).trans_lt h
  have hfinite := (rounds_quotient hdensity).isFinite_iff.2 hlimit
  obtain ⟨n, hn⟩ := exists_floor?_half_iff.2 hfinite
  exact exists_bind_eq_ok_iff.2
    ⟨_, quotient?_eq_ok_iff.2 ⟨hdensity, hlimit, rfl⟩, exists_bind_eq_ok_iff.2 ⟨n, hn, _, rfl⟩⟩

theorem abs_lt_limit_of_enemiesIn? {squares : Int} {clustered : Bool} {n : Int}
    (h : enemiesIn? squares clustered = .ok n) : |(n : Rat)| < limit := by
  obtain ⟨x, -, h⟩ := bind_eq_ok_iff.1 h
  obtain ⟨m, hm, h⟩ := bind_eq_ok_iff.1 h
  obtain rfl : max 1 m = n := Except.ok.inj h
  obtain ⟨hfinite, rfl⟩ := floor?_eq_ok_iff.1 hm
  have hlimit : (x + 0.5).value < limit := (le_abs_self _).trans_lt (abs_value_lt_limit hfinite)
  have hone : ((1 : Nat) : Rat) < limit := lt_limit_of_le (by decide)
  have hpos : (0 : Rat) ≤ (max 1 ⌊(x + 0.5).value⌋ : Int) := by
    exact_mod_cast (show 0 ≤ max 1 ⌊(x + 0.5).value⌋ by omega)
  rw [abs_of_nonneg hpos, Int.cast_max, max_lt_iff, Int.cast_one]
  exact ⟨by exact_mod_cast hone, (Int.floor_le _).trans_lt hlimit⟩

theorem exists_defaultTargets? {m : RuleMatch} (h : (m.maxTargets : Rat) < limit)
    (clustered : Bool) : ∃ n, m.defaultTargets? clustered = .ok n := by
  rw [RuleMatch.defaultTargets?]
  cases m.targets with
  | none => exact exists_enemiesIn? h clustered
  | some n => exact ⟨n, rfl⟩

theorem exists_measure?_iff {rule : TargetRule} {finding : Finding} :
    (∃ m, finding.measure? rule = .ok m) ↔ ∀ template digits, finding = .area template digits →
      ∃ size squares, WholeText.value? digits = .ok size ∧
        template.squares? size = .ok squares := by
  cases finding with
  | area template digits =>
      rw [Finding.measure?, exists_bind_eq_ok_iff]
      simp only [exists_bind_eq_ok_iff]
      constructor
      · rintro ⟨size, hsize, squares, hsquares, -⟩ template' digits' heq
        obtain ⟨rfl, rfl⟩ := Finding.area.inj heq
        exact ⟨size, squares, hsize, hsquares⟩
      · intro h
        obtain ⟨size, squares, hsize, hsquares⟩ := h template digits rfl
        exact ⟨size, hsize, squares, hsquares, _, rfl⟩
  | count targets most => exact iff_of_true ⟨_, rfl⟩ nofun

/-- An estimate succeeds exactly if the area that is found first, if there is one, has a size
that can be read and squares within the range. -/
theorem exists_estimate?_iff {text : List Char} {context : Combat.Context} {clustered : Bool} :
    (∃ e, estimate? text context clustered = .ok e) ↔
      ∀ rule template digits, firstFinding? text = some (rule, .area template digits) →
        ∃ size squares, WholeText.value? digits = .ok size ∧
          template.squares? size = .ok squares := by
  rw [estimate?, exists_bind_eq_ok_iff, firstMatch?]
  cases hfirst : firstFinding? text with
  | none => exact iff_of_true ⟨none, rfl, _, rfl⟩ nofun
  | some found =>
      obtain ⟨rule, finding⟩ := found
      have hsmall := isSmall_of_firstFinding? hfirst
      have hmeasure : (∃ m, finding.measure? rule = .ok m) ↔ ∀ rule' template digits,
          some (rule, finding) = some (rule', .area template digits) →
            ∃ size squares, WholeText.value? digits = .ok size ∧
              template.squares? size = .ok squares := by
        rw [exists_measure?_iff]
        refine ⟨fun h rule' template digits heq => ?_, fun h template digits heq => ?_⟩
        · exact h template digits (Prod.mk.inj (Option.some.inj heq)).2
        · exact h rule template digits (by rw [heq])
      rw [← hmeasure]
      constructor
      · rintro ⟨m?, hm, -⟩
        cases hfound : finding.measure? rule with
        | ok m => exact ⟨m, rfl⟩
        | error fault =>
            simp only [hfound] at hm
            exact nomatch hm
      · rintro ⟨m, hm⟩
        obtain ⟨default, hdefault⟩ :=
          exists_defaultTargets? (lt_limit_of_measure? hsmall hm) clustered
        refine ⟨some m, by simp only [hm]; rfl, ?_⟩
        exact exists_bind_eq_ok_iff.2 ⟨default, hdefault, _, rfl⟩

theorem exists_of_firstMatch? {text : List Char} {m : RuleMatch}
    (h : firstMatch? text = .ok (some m)) : ∃ rule finding,
      firstFinding? text = some (rule, finding) ∧ finding.measure? rule = .ok m := by
  rw [firstMatch?] at h
  split at h
  · next rule finding hfirst =>
      obtain ⟨m', hmeasure, hm⟩ := map_eq_ok_iff.1 h
      obtain rfl := Option.some.inj hm
      exact ⟨rule, finding, hfirst, hmeasure⟩
  · exact nomatch h

/-- Of a context, only the targets that it expects count for an estimate. -/
theorem estimate?_congr {context context' : Combat.Context}
    (h : context'.expectedTargets = context.expectedTargets) (text : List Char)
    (clustered : Bool) : estimate? text context' clustered = estimate? text context clustered := by
  rw [estimate?, estimate?, h]

/-- What an estimate is: without a match there is one target, and the targets of a match are
those that the context expects, up to the most of the match, or those of the match. -/
theorem estimate?_eq_ok_iff {text : List Char} {context : Combat.Context} {clustered : Bool}
    {e : TargetEstimate} : estimate? text context clustered = .ok e ↔
      firstMatch? text = .ok none ∧ e = ⟨1, 1, none⟩ ∨
        ∃ m default, firstMatch? text = .ok (some m) ∧ m.defaultTargets? clustered = .ok default ∧
          e = ⟨if 1 < context.expectedTargets.val then
            min context.expectedTargets.val m.maxTargets else default, m.maxTargets, some m⟩ := by
  rw [estimate?, bind_eq_ok_iff]
  constructor
  · rintro ⟨found, hfound, h⟩
    cases found with
    | none => exact .inl ⟨hfound, (Except.ok.inj h).symm⟩
    | some m =>
        obtain ⟨default, hdefault, h⟩ := bind_eq_ok_iff.1 h
        exact .inr ⟨m, default, hfound, hdefault, (Except.ok.inj h).symm⟩
  · rintro (⟨hnone, rfl⟩ | ⟨m, default, hm, hdefault, rfl⟩)
    · exact ⟨none, hnone, rfl⟩
    · exact ⟨some m, hm, bind_eq_ok_iff.2 ⟨default, hdefault, rfl⟩⟩

theorem firstFinding?_eq_none {text : List Char} (h : firstMatch? text = .ok none) :
    firstFinding? text = none := by
  rw [firstMatch?] at h
  split at h
  · obtain ⟨m, -, hm⟩ := map_eq_ok_iff.1 h
    exact nomatch hm
  · assumption

/-- Where an estimate comes from: there is no finding and one target, or the targets are
those that the context expects, up to the most of the match, or those of the match. -/
theorem estimate?_cases {text : List Char} {context : Combat.Context} {clustered : Bool}
    {e : TargetEstimate} (h : estimate? text context clustered = .ok e) :
    firstFinding? text = none ∧ e = ⟨1, 1, none⟩ ∨ ∃ rule finding m,
      firstFinding? text = some (rule, finding) ∧ finding.measure? rule = .ok m ∧
        e.maxTargets = m.maxTargets ∧
          (1 < context.expectedTargets.val ∧
              e.targets = min context.expectedTargets.val m.maxTargets ∨
            ¬ 1 < context.expectedTargets.val ∧ m.defaultTargets? clustered = .ok e.targets) := by
  rcases estimate?_eq_ok_iff.1 h with ⟨hnone, he⟩ | ⟨m, default, hm, hdefault, rfl⟩
  · exact .inl ⟨firstFinding?_eq_none hnone, he⟩
  · obtain ⟨rule, finding, hfirst, hmeasure⟩ := exists_of_firstMatch? hm
    refine .inr ⟨rule, finding, m, hfirst, hmeasure, rfl, ?_⟩
    by_cases hexpected : 1 < context.expectedTargets.val
    · exact .inl ⟨hexpected, if_pos hexpected⟩
    · refine .inr ⟨hexpected, hdefault.trans ?_⟩
      exact congrArg Except.ok (if_neg hexpected).symm

/-- The targets of an estimate are one, or at most those of the match, or the enemies in its
area. -/
theorem targets_cases {text : List Char} {context : Combat.Context} {clustered : Bool}
    {e : TargetEstimate} (h : estimate? text context clustered = .ok e) :
    e.targets = 1 ∨ ∃ rule finding m, firstFinding? text = some (rule, finding) ∧
      finding.measure? rule = .ok m ∧
        (0 ≤ e.targets ∧ e.targets ≤ m.maxTargets ∨
          enemiesIn? m.maxTargets clustered = .ok e.targets) := by
  rcases estimate?_cases h with ⟨-, rfl⟩ | ⟨rule, finding, m, hfirst, hmeasure, -, hcases⟩
  · exact .inl rfl
  · refine .inr ⟨rule, finding, m, hfirst, hmeasure, ?_⟩
    rcases hcases with ⟨hexpected, htargets⟩ | ⟨-, hdefault⟩
    · exact .inl (by omega)
    · rw [RuleMatch.defaultTargets?] at hdefault
      split at hdefault
      · next n hn =>
          have hle := targets_le_of_measure? (isSmall_of_firstFinding? hfirst) hmeasure n hn
          have htargets : (n : Int) = e.targets := Except.ok.inj hdefault
          exact .inl (by omega)
      · exact .inr hdefault

/-- Estimated targets are within the range. -/
theorem abs_lt_limit_of_estimate? {text : List Char} {context : Combat.Context}
    {clustered : Bool} {e : TargetEstimate} (h : estimate? text context clustered = .ok e) :
    |(e.targets : Rat)| < limit := by
  obtain hone | ⟨rule, finding, m, hfirst, hmeasure, ⟨hnonneg, hle⟩ | henemies⟩ := targets_cases h
  · have hlimit : ((1 : Nat) : Rat) < limit := lt_limit_of_le (by decide)
    rw [hone]
    simpa using hlimit
  · have hlimit := lt_limit_of_measure? (isSmall_of_firstFinding? hfirst) hmeasure
    have hnonneg : (0 : Rat) ≤ e.targets := by exact_mod_cast hnonneg
    have hle : (e.targets : Rat) ≤ m.maxTargets := by exact_mod_cast hle
    rw [abs_of_nonneg hnonneg]
    exact hle.trans_lt hlimit
  · exact abs_lt_limit_of_enemiesIn? henemies

end Area

end ExpectedDamage
