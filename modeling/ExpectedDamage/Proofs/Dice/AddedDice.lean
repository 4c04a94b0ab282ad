import ExpectedDamage.Dice.Statistics
import ExpectedDamage.Proofs.Dice.Scaling
/-!
# What added dice are worth

Dice that are added join the first term with their sides. All of them count if that term
has no keep rule, or if there is no such term; a term with a keep rule rolls more dice and
keeps as many as before. So the bounds of the damage of a stronger casting are those of the
damage itself and of the dice that count (`bounds_of_scaleText?`).
-/

namespace ExpectedDamage.Dice

/-- The term that dice join: the first one with their sides. -/
def joined? (sides : Int) (terms : List Term) : Option Term := terms.find? fun t => t.sides = sides

/-- Dice that are added are all kept: the term that they join, if there is one, has no keep
rule. -/
def AllKept (sides : Int) (terms : List Term) : Prop := ∀ t ∈ joined? sides terms, t.keep = none

instance (sides : Int) (terms : List Term) : Decidable (AllKept sides terms) :=
  inferInstanceAs (Decidable (∀ t ∈ joined? sides terms, t.keep = none))

/-- A term with a keep rule keeps no more of more dice. -/
theorem Term.keptCount_add (t : Term) (count : Int) :
    Term.keptCount { t with count := t.count + count } =
      t.keptCount + if t.keep = none then count else 0 := by
  obtain ⟨_, _, keep⟩ := t
  cases keep with
  | none => rfl
  | some rule => exact (Int.add_zero _).symm

section AddDice

variable {count sides : Int} {t : Term} {terms : List Term}

theorem allKept_nil : AllKept sides [] := nofun

theorem allKept_cons_of_eq (h : t.sides = sides) : AllKept sides (t :: terms) ↔ t.keep = none := by
  have hjoined : joined? sides (t :: terms) = some t :=
    List.find?_cons_of_pos (decide_eq_true h)
  rw [AllKept, hjoined]
  simp

theorem allKept_cons_of_ne (h : t.sides ≠ sides) :
    AllKept sides (t :: terms) ↔ AllKept sides terms := by
  have hjoined : joined? sides (t :: terms) = joined? sides terms :=
    List.find?_cons_of_neg (by simpa using h)
  rw [AllKept, hjoined, AllKept]

/-- Dice that are added raise a sum over the kept dice by their own, if they are kept. -/
theorem wholeSum_addDice (count sides : Int) (terms : List Term) (weight : Int → Int) :
    wholeSum ((addDice count sides terms).map fun t => t.keptCount * weight t.sides) =
      wholeSum (terms.map fun t => t.keptCount * weight t.sides) +
        if AllKept sides terms then count * weight sides else 0 := by
  induction terms with
  | nil =>
      rw [if_pos allKept_nil, addDice]
      simp [Term.keptCount]
  | cons t rest ih =>
      rw [addDice]
      by_cases h : t.sides = sides
      · subst h
        have hkept := congrArg (· * weight t.sides) (t.keptCount_add count)
        simp only [Int.add_mul, ite_mul, Int.zero_mul] at hkept
        simp only [if_pos, allKept_cons_of_eq, List.map_cons, wholeSum_cons, hkept]
        omega
      · simp only [if_neg h, allKept_cons_of_ne h, List.map_cons, wholeSum_cons, ih]
        omega

end AddDice

namespace Expression

variable {e : Expression} {levels : Int} {added : Term}

theorem minimum_raised : (e.raised levels added).minimum =
    e.minimum + if AllKept added.sides e.terms then added.count * levels else 0 := by
  have hsum := wholeSum_addDice (added.count * levels) added.sides e.terms fun _ => 1
  simp only [Int.mul_one] at hsum
  rw [minimum, minimum, raised, hsum, Int.add_assoc]

theorem maximum_raised : (e.raised levels added).maximum =
    e.maximum + if AllKept added.sides e.terms then added.count * levels * added.sides else 0 := by
  have hsum := wholeSum_addDice (added.count * levels) added.sides e.terms fun sides => sides
  rw [maximum, maximum, raised, hsum, Int.add_assoc]

end Expression

/-- The damage of a stronger casting is an expression again, unless a number of it does not fit
into a text. Its bounds are raised by the dice of the rule if these are all kept, and are those
of the damage itself if the dice join a term with a keep rule. -/
theorem bounds_of_scaleText? {text rule : String} {e : Expression} {w : WrittenTerm} {added : Term}
    {baseLevel castLevel : Int} (he : Expression.parse? text = .ok (some e)) (hdice : e.terms ≠ [])
    (hrule : ruleDice? rule = some w) (hadded : w.term? = .ok added) (hcount : 1 ≤ added.count)
    (hsides : 1 ≤ added.sides) (hlevel : baseLevel < castLevel) :
    if ∀ n ∈ (e.raised (castLevel - baseLevel) added).numbers, WholeText.Fits n then
      ∃ scaled parsed, scaleText? text baseLevel castLevel (some rule) = .ok scaled ∧
        Expression.parse? scaled = .ok (some parsed) ∧
        if AllKept added.sides e.terms then
          parsed.minimum = e.minimum + added.count * (castLevel - baseLevel) ∧
            parsed.maximum = e.maximum + added.count * (castLevel - baseLevel) * added.sides
        else parsed.minimum = e.minimum ∧ parsed.maximum = e.maximum
    else scaleText? text baseLevel castLevel (some rule) = .error .tooLong := by
  have hadds : addedDice? e (some rule) = some w := by
    rw [addedDice?, Expression.isFlat, List.isEmpty_eq_false_iff.2 hdice]
    exact hrule
  have hraised : scaleText? text baseLevel castLevel (some rule) =
      (e.raised (castLevel - baseLevel) added).text? := by
    rw [scaleText?_eq he hlevel, hadds]
    exact Expression.raisedText?_eq hadded
  rw [hraised, Expression.text?, WholeText.showing?]
  split
  · next hfits =>
      have hread := Expression.parse?_text_raised (valid_of_parse? he) (by omega)
        (natural_of_term? hadded) hfits
      rw [if_pos ⟨hsides, .inl hcount⟩] at hread
      refine ⟨_, _, rfl, hread, ?_⟩
      rw [Expression.minimum_raised, Expression.maximum_raised]
      split
      · exact ⟨rfl, rfl⟩
      · exact ⟨Int.add_zero _, Int.add_zero _⟩
  · rfl

/-- Two levels of one die each, which join the second term. -/
theorem bounds_of_scaleText?_second_term :
    let e : Expression := ⟨[⟨2, 8, some ⟨.highest, 1⟩⟩, ⟨1, 6, none⟩], 3⟩
    ∃ scaled parsed, scaleText? "2d8kh1+1d6+3" 1 3 (some "Add 1d6 for each level.") = .ok scaled ∧
      Expression.parse? scaled = .ok (some parsed) ∧
      parsed.minimum = e.minimum + 2 ∧ parsed.maximum = e.maximum + 12 := by
  intro e
  have he : Expression.parse? "2d8kh1+1d6+3" = .ok (some e) := by decide +kernel
  have hrule : ruleDice? "Add 1d6 for each level." = some ⟨some ['1'], ['6'], none⟩ := by
    decide +kernel
  have hadded : WrittenTerm.term? ⟨some ['1'], ['6'], none⟩ = .ok ⟨1, 6, none⟩ := by
    decide +kernel
  have hlevels : (1 : Int) < 3 := by decide
  have h := bounds_of_scaleText? he (List.cons_ne_nil _ _) hrule hadded (by decide) (by decide)
    hlevels
  rw [if_pos (by decide +kernel)] at h
  obtain ⟨scaled, parsed, hscaled, hparsed, hbounds⟩ := h
  rw [if_pos (by decide +kernel)] at hbounds
  exact ⟨scaled, parsed, hscaled, hparsed, hbounds⟩

/-- A die that joins the highest three of four dice is rolled with them and adds nothing to the
bounds. -/
theorem scaleText?_highest_three :
    let e : Expression := ⟨[⟨4, 6, some ⟨.highest, 3⟩⟩], 0⟩
    let raised : Expression := ⟨[⟨5, 6, some ⟨.highest, 3⟩⟩], 0⟩
    Expression.parse? "4d6kh3" = .ok (some e) ∧
      ruleDice? "1d6" = some ⟨some ['1'], ['6'], none⟩ ∧
      scaleText? "4d6kh3" 1 2 (some "1d6") = .ok "5d6kh3" ∧
      Expression.parse? "5d6kh3" = .ok (some raised) ∧
      raised.minimum ≠ e.minimum + 1 * (2 - 1) ∧ raised.maximum ≠ e.maximum + 1 * (2 - 1) * 6 := by
  decide +kernel

end ExpectedDamage.Dice
