import ExpectedDamage.Proofs.Dice.Average
import ExpectedDamage.Proofs.Number.Order
/-!
# The average within the bounds

The average of a flat number is the number itself, and so are its bounds. The average of dice
is a binary64 number, no further from the mean than its `drift` (`abs_average?_sub_le`). So it
keeps bounds that the mean keeps, up to the drift, and exactly where the mean keeps them by more
than that (`average?_within_bounds`).
-/

namespace ExpectedDamage

theorem Amount.toReal?_whole (n : Int) : (Amount.whole n).toReal? = Binary64.ofInt? n := by
  rw [Amount.toReal?]

/-- The number that an amount stands for, if it is one. -/
def Amount.value : Amount → Rat
  | .whole n => n
  | .real x => x.value

/-- The amount is a number, neither infinite nor none at all. -/
def Amount.IsFinite : Amount → Prop
  | .whole _ => True
  | .real x => x.IsFinite

namespace Dice.Expression

open Binary64

attribute [local irreducible] grainsPerUnit grainLimit significandLimit

/-- The average of dice is their figure. -/
theorem average?_of_not_flat {e : Expression} (h : e.terms ≠ []) :
    e.average? = Amount.real <$> e.mean? := by
  have hflat : ¬ e.isFlat = true := fun hflat => h (List.isEmpty_iff.1 hflat)
  rw [average?, if_neg hflat]

/-- The average of a flat number is the number, and its only bound. -/
theorem average?_of_flat {e : Expression} (h : e.terms = []) :
    e.average? = .ok (.whole e.minimum) ∧ e.minimum = e.maximum := by
  have hflat : e.isFlat = true := List.isEmpty_iff.2 h
  have hmodifier : e.minimum = e.modifier := by
    rw [minimum, h, List.map_nil, wholeSum_nil, Int.add_zero]
  rw [average?, if_pos hflat, maximum, hmodifier, h]
  exact ⟨rfl, (Int.add_zero e.modifier).symm⟩

theorem mean?_of_flat {e : Expression} (h : e.terms = []) :
    (e.mean? : Except ArithmeticFault Binary64) =
      ofInt? e.modifier >>= fun modifier => pure (modifier + 0.0) := by
  rw [mean?, h, List.mapM_nil, pure_bind]
  rfl

/-- As a figure, the average is the one that goes into the damage formulas. -/
theorem average?_bind_toReal? (e : Expression) :
    (e.average? >>= Amount.toReal?) = (e.mean? : Except ArithmeticFault Binary64) := by
  by_cases h : e.terms = []
  · have hflat : e.isFlat = true := List.isEmpty_iff.2 h
    have hwhole : (e.average? >>= Amount.toReal?) = ofInt? e.modifier := by
      rw [average?, if_pos hflat]
      exact (pure_bind (Amount.whole e.modifier) Amount.toReal?).trans
        (Amount.toReal?_whole e.modifier)
    rw [hwhole, mean?_of_flat h]
    cases hmodifier : ofInt? e.modifier with
    | error fault => rfl
    | ok x =>
        have hplain : x.Plain := plain_of_quotient? Int.one_pos
          (by exact_mod_cast grainsPerUnit_pos) hmodifier
        exact congrArg Except.ok hplain.add_zero.symm
  · rw [average?_of_not_flat h]
    cases (e.mean? : Except ArithmeticFault Binary64) <;> rfl

/-- An average that is a number lies as far from the mean as its roundings take it, and at the
mean if the number is flat. -/
theorem abs_average?_sub_le {e : Expression} {x : Amount} (h : e.Valid) (hx : e.average? = .ok x)
    (hfinite : x.IsFinite) : |x.value - e.mean| ≤ e.drift := by
  by_cases hterms : e.terms = []
  · obtain ⟨haverage, -⟩ := average?_of_flat hterms
    obtain rfl := Except.ok.inj (haverage.symm.trans hx)
    have hmean : e.mean = e.minimum := by
      rw [mean, minimum, hterms]
      simp [wholeSum_eq_sum]
    rw [hmean, Amount.value, sub_self, abs_zero]
    exact drift_nonneg h
  · rw [average?_of_not_flat hterms] at hx
    obtain ⟨y, hy, rfl⟩ := map_eq_ok_iff.1 hx
    exact (computed h hy hfinite).error_le

/-- The average of a readable text, where it is a number. That of a flat number is its minimum
and its maximum. That of dice keeps the bounds up to its roundings if every term keeps enough
dice for its sides; it keeps them exactly if there are no keep rules and the numbers have an
ordinary size, or if without the roundings it is further from the bounds than these take it.
Term by term, and without roundings, keeping enough dice is also needed. -/
theorem average?_within_bounds {text : String} {e : Expression} {x : Amount}
    (hparse : parse? text = .ok (some e)) (hx : e.average? = .ok x) (hfinite : x.IsFinite) :
    (e.terms = [] → x = .whole e.minimum ∧ e.minimum = e.maximum) ∧
    ((∀ t ∈ e.terms, t.KeepsEnough) →
      e.minimum - e.drift ≤ x.value ∧ x.value ≤ e.maximum + e.drift) ∧
    ((∀ t ∈ e.terms, t.keep = none) → e.size ≤ 2 ^ 52 →
      e.minimum ≤ x.value ∧ x.value ≤ e.maximum) ∧
    (∃ unrounded : Rat, e.mean? = .ok unrounded ∧
      (e.minimum + e.drift ≤ unrounded → unrounded ≤ e.maximum - e.drift →
        e.minimum ≤ x.value ∧ x.value ≤ e.maximum)) ∧
    ∀ t ∈ e.terms, ∃ part : Rat, t.average? = .ok part ∧
      (t.keptCount ≤ part ∧ part ≤ t.keptCount * t.sides ↔ t.KeepsEnough) := by
  have h := valid_of_parse? hparse
  have herror := abs_le.1 (abs_average?_sub_le h hx hfinite)
  refine ⟨fun hflat => ?_, fun henough => ?_, fun hplain hsize => ?_,
    ⟨e.mean, mean?_rat h, fun hlow hhigh => ?_⟩, fun t ht => ?_⟩
  · obtain ⟨haverage, hbounds⟩ := average?_of_flat hflat
    exact ⟨(Except.ok.inj (haverage.symm.trans hx)).symm, hbounds⟩
  · obtain ⟨hlow, hhigh⟩ := mean_mem h henough
    constructor
    · linarith
    · linarith
  · have henough : ∀ t ∈ e.terms, t.KeepsEnough := by
      intro t ht
      rw [Term.KeepsEnough, hplain t ht]
      exact fun rule hrule => absurd hrule (Option.not_mem_none rule)
    by_cases hflat : e.terms = []
    · obtain ⟨haverage, hbounds⟩ := average?_of_flat hflat
      obtain rfl := Except.ok.inj (haverage.symm.trans hx)
      rw [← hbounds]
      exact ⟨le_rfl, le_rfl⟩
    · rw [average?_of_not_flat hflat] at hx
      obtain ⟨y, hy, rfl⟩ := map_eq_ok_iff.1 hx
      rw [Amount.value, value_eq_mean h hy hplain hsize]
      exact mean_mem h henough
  · constructor
    · linarith
    · linarith
  · exact ⟨t.mean, Term.average?_rat (h.1 t ht), Term.mean_mem_iff (h.1 t ht)⟩

/-- A term that drops dice beside a plain one, which stays away from the bounds; plain terms; and
a flat number with more than 53 bits. -/
theorem average?_within_bounds_drop_lowest :
    let e : Expression := ⟨[⟨4, 6, some ⟨.highest, 2⟩⟩, ⟨2, 8, none⟩], -1⟩
    let plain : Expression := ⟨[⟨2, 6, none⟩], 4⟩
    let flat : Expression := ⟨[], 9007199254740993⟩
    (parse? "4d6kh2+2d8-1" = .ok (some e) ∧ e.average? = .ok (.real 17.8) ∧
      (17.8 : Binary64).IsFinite ∧ (∀ t ∈ e.terms, t.KeepsEnough) ∧
      (e.minimum - e.drift ≤ (17.8 : Binary64).value ∧
        (17.8 : Binary64).value ≤ e.maximum + e.drift) ∧
      e.mean? = .ok (89 / 5 : Rat) ∧ e.minimum + e.drift ≤ 89 / 5 ∧ 89 / 5 ≤ e.maximum - e.drift ∧
      (e.minimum ≤ (17.8 : Binary64).value ∧ (17.8 : Binary64).value ≤ e.maximum)) ∧
    (parse? "2d6+4" = .ok (some plain) ∧ plain.average? = .ok (.real 11) ∧
      (11 : Binary64).IsFinite ∧ (∀ t ∈ plain.terms, t.keep = none) ∧ plain.size ≤ 2 ^ 52 ∧
      (plain.minimum ≤ (11 : Binary64).value ∧ (11 : Binary64).value ≤ plain.maximum)) ∧
    parse? "9007199254740993" = .ok (some flat) ∧
      flat.average? = .ok (.whole 9007199254740993) ∧ (Amount.whole 9007199254740993).IsFinite ∧
      flat.minimum = 9007199254740993 ∧ flat.minimum = flat.maximum := by
  intro e plain flat
  refine ⟨?_, ?_, ?_⟩
  · have hparse : parse? "4d6kh2+2d8-1" = .ok (some e) :=
      parse?_eq_of_text_eq (by decide) (by decide) (by decide)
    have hx : e.average? = .ok (.real 17.8) := by decide +kernel
    have hfinite : (17.8 : Binary64).IsFinite := by decide +kernel
    have henough : ∀ t ∈ e.terms, t.KeepsEnough := by decide
    have hmean : e.mean? = .ok (89 / 5 : Rat) := by decide +kernel
    have hlow : e.minimum + e.drift ≤ 89 / 5 := by decide +kernel
    have hhigh : 89 / 5 ≤ e.maximum - e.drift := by decide +kernel
    obtain ⟨-, hdrift, -, ⟨unrounded, hunrounded, hexact⟩, -⟩ :=
      average?_within_bounds hparse hx hfinite
    obtain rfl := Except.ok.inj (hmean.symm.trans hunrounded)
    exact ⟨hparse, hx, hfinite, henough, hdrift henough, hmean, hlow, hhigh, hexact hlow hhigh⟩
  · have hparse : parse? "2d6+4" = .ok (some plain) :=
      parse?_eq_of_text_eq (by decide) (by decide) (by decide)
    have hx : plain.average? = .ok (.real 11) := by decide +kernel
    have hfinite : (11 : Binary64).IsFinite := by decide +kernel
    have hplain : ∀ t ∈ plain.terms, t.keep = none := by decide
    have hsize : plain.size ≤ 2 ^ 52 := by decide
    exact ⟨hparse, hx, hfinite, hplain, hsize,
      (average?_within_bounds hparse hx hfinite).2.2.1 hplain hsize⟩
  · have hparse : parse? "9007199254740993" = .ok (some flat) :=
      parse?_eq_of_text_eq (by decide) (by decide) (by decide)
    have hx : flat.average? = .ok (.whole 9007199254740993) := rfl
    obtain ⟨hminimum, hbounds⟩ := (average?_within_bounds hparse hx trivial).1 rfl
    exact ⟨hparse, hx, trivial, (Amount.whole.inj hminimum).symm, hbounds⟩

/-- Bounds that are missed: the maximum by one die kept of two with one face, and by the
roundings of four ranks; the minimum by a modifier with more than 53 bits beside a die; and any
maximum by two terms whose sum is too large for a binary64 number. -/
theorem average?_beyond_bounds :
    let few : Expression := ⟨[⟨2, 1, some ⟨.highest, 1⟩⟩], 0⟩
    let rounded : Expression := ⟨[⟨9, 3, some ⟨.highest, 4⟩⟩], 0⟩
    let wide : Expression := ⟨[⟨1, 1, none⟩], 9007199254740993⟩
    let huge : Expression := ⟨[⟨1, 3 * (10 ^ 154) ^ 2, none⟩, ⟨1, 3 * (10 ^ 154) ^ 2, none⟩], 0⟩
    (parse? "2d1kh1" = .ok (some few) ∧
      ∃ x : Binary64, few.average? = .ok (.real x) ∧ x.IsFinite ∧ few.maximum < x.value) ∧
    (parse? "9d3kh4" = .ok (some rounded) ∧ (∀ t ∈ rounded.terms, t.KeepsEnough) ∧
      ∃ x : Binary64, rounded.average? = .ok (.real x) ∧ x.IsFinite ∧
        rounded.maximum < x.value) ∧
    (parse? "1d1+9007199254740993" = .ok (some wide) ∧ (∀ t ∈ wide.terms, t.KeepsEnough) ∧
      ∃ x : Binary64, wide.average? = .ok (.real x) ∧ x.IsFinite ∧ x.value < wide.minimum) ∧
    parse? huge.text = .ok (some huge) ∧ huge.average? = .ok (.real (infinite false)) := by
  refine ⟨⟨?_, quotient 4 3, ?_, ?_, ?_⟩, ⟨?_, ?_, 12.000000000000002, ?_, ?_, ?_⟩,
    ⟨?_, ?_, 9007199254740992, ?_, ?_, ?_⟩, ?_, ?_⟩
  · exact parse?_eq_of_text_eq (by decide) (by decide) (by decide)
  · decide +kernel
  · decide +kernel
  · decide +kernel
  · exact parse?_eq_of_text_eq (by decide) (by decide) (by decide)
  · decide
  · decide +kernel
  · decide +kernel
  · decide +kernel
  · exact parse?_eq_of_text_eq (by decide) (by decide) (by decide)
  · decide
  · decide +kernel
  · decide +kernel
  · decide +kernel
  · exact parse?_eq_of_text_eq (by decide) (by decide +kernel) rfl
  · decide +kernel

end Dice.Expression

end ExpectedDamage
