import ExpectedDamage.Dice.Scaling
import ExpectedDamage.Proofs.Dice.Canonical
import ExpectedDamage.Proofs.Dice.Validity
/-!
# Scaled damage

The text of a stronger casting is that of the damage itself or of the expression with the
dice of the rule added (`scaleText?_eq`). Dice that are added keep an expression one that
can be rolled exactly if they have a face and either a die or a term that they join
(`valid_addDice_iff`); otherwise the text of the casting is not read as an expression.
-/

namespace ExpectedDamage.Dice

/-! The dice of a rule. -/

/-- What is written has no signs. -/
theorem natural_of_term? {w : WrittenTerm} {t : Term} (h : w.term? = .ok t) : t.Natural := by
  have hnonneg : ∀ n ∈ t.numbers, 0 ≤ n := by
    intro n hn
    obtain rfl | ⟨_, k, -, rfl⟩ := read_of_mem_numbers h n hn
    · exact Int.one_nonneg
    · exact Int.natCast_nonneg k
  refine ⟨hnonneg _ (by simp [Term.numbers]), hnonneg _ (by simp [Term.numbers]), ?_⟩
  intro rule hrule
  exact hnonneg _ (by simp [Term.numbers, Option.mem_def.1 hrule])

/-! Dice that are added. -/

section AddDice

variable {count sides : Int} {terms : List Term}

theorem addDice_ne_nil (count sides : Int) (terms : List Term) :
    addDice count sides terms ≠ [] := by
  cases terms with
  | nil => exact List.cons_ne_nil _ _
  | cons t rest =>
      rw [addDice]
      split <;> exact List.cons_ne_nil _ _

theorem natural_addDice (hcount : 0 ≤ count) (hsides : 0 ≤ sides) (h : ∀ t ∈ terms, t.Natural) :
    ∀ t ∈ addDice count sides terms, t.Natural := by
  induction terms with
  | nil =>
      rw [addDice, List.forall_mem_singleton]
      exact ⟨hcount, hsides, nofun⟩
  | cons t rest ih =>
      obtain ⟨ht, hrest⟩ := List.forall_mem_cons.1 h
      rw [addDice]
      split
      · exact List.forall_mem_cons.2 ⟨⟨Int.add_nonneg ht.count hcount, ht.sides, ht.keep⟩, hrest⟩
      · exact List.forall_mem_cons.2 ⟨ht, ih hrest⟩

/-- More dice of a term leave it one that can be rolled. -/
theorem Term.Valid.add {t : Term} (h : t.Valid) (hcount : 0 ≤ count) :
    Term.Valid { t with count := t.count + count } := by
  obtain ⟨hone, hsides, hkeep⟩ := h
  have hmore : t.count ≤ t.count + count := Int.le_add_of_nonneg_right hcount
  refine ⟨hone.trans hmore, hsides, fun rule hrule => ?_⟩
  obtain ⟨hkept, hle⟩ := hkeep rule hrule
  exact ⟨hkept, hle.trans hmore⟩

/-- Dice that are added can be rolled if they have a face, and if there is one of them or a
term that they join. -/
theorem valid_addDice_iff (hcount : 0 ≤ count) (h : ∀ t ∈ terms, t.Valid) :
    (∀ t ∈ addDice count sides terms, t.Valid) ↔
      1 ≤ sides ∧ (1 ≤ count ∨ ∃ t ∈ terms, t.sides = sides) := by
  induction terms with
  | nil =>
      rw [addDice, List.forall_mem_singleton, Term.Valid]
      simp [and_comm]
  | cons t rest ih =>
      obtain ⟨ht, hrest⟩ := List.forall_mem_cons.1 h
      rw [addDice, List.exists_mem_cons_iff]
      split
      · next hsides =>
          have hone : 1 ≤ sides := hsides ▸ ht.2.1
          exact iff_of_true (List.forall_mem_cons.2 ⟨ht.add hcount, hrest⟩)
            ⟨hone, .inr (.inl hsides)⟩
      · next hsides => rw [List.forall_mem_cons, and_iff_right ht, ih hrest, or_iff_right hsides]

end AddDice

/-! The text of a stronger casting. -/

namespace Expression

/-- The expression with the dice of some levels added. -/
def raised (e : Expression) (levels : Int) (added : Term) : Expression :=
  { e with terms := addDice (added.count * levels) added.sides e.terms }

/-- Dice of a rule that can be rolled with an expression. -/
def Takes (e : Expression) (added : Term) : Prop :=
  1 ≤ added.sides ∧ (1 ≤ added.count ∨ ∃ t ∈ e.terms, t.sides = added.sides)

instance (e : Expression) (added : Term) : Decidable (e.Takes added) :=
  inferInstanceAs (Decidable (_ ∧ _))

theorem valid_raised_iff {e : Expression} {levels : Int} {added : Term} (he : e.Valid)
    (hlevels : 1 ≤ levels) (hadded : added.Natural) :
    (e.raised levels added).Valid ↔ e.Takes added := by
  have hnonneg : 0 ≤ levels := Int.le_trans Int.one_nonneg hlevels
  have hcount : 0 ≤ added.count * levels := Int.mul_nonneg hadded.count hnonneg
  have hone : 1 ≤ added.count * levels ↔ 1 ≤ added.count := by
    change 0 < added.count * levels ↔ 0 < added.count
    exact mul_pos_iff_of_pos_right hlevels
  have hne : (e.raised levels added).terms ≠ [] := addDice_ne_nil _ _ _
  rw [Valid, and_iff_left (Or.inl hne), raised, valid_addDice_iff hcount he.1, hone, Takes]

theorem raisedText?_eq_ok_iff {e : Expression} {levels : Int} {w : WrittenTerm} {scaled : String} :
    raisedText? e levels w = .ok scaled ↔ ∃ added, w.term? = .ok added ∧
      (∀ n ∈ (e.raised levels added).numbers, WholeText.Fits n) ∧
        (e.raised levels added).text = scaled := by
  rw [raisedText?, bind_eq_ok_iff]
  exact exists_congr fun added => and_congr_right fun _ => WholeText.showing?_eq_ok_iff

theorem raisedText?_eq {e : Expression} {levels : Int} {w : WrittenTerm} {added : Term}
    (hadded : w.term? = .ok added) : raisedText? e levels w = (e.raised levels added).text? :=
  congrArg (· >>= _) hadded

/-- The text with the dice of a rule is read as what it says, if that can be rolled. -/
theorem parse?_text_raised {e : Expression} {levels : Int} {added : Term} (he : e.Valid)
    (hlevels : 1 ≤ levels) (hadded : added.Natural)
    (hfits : ∀ n ∈ (e.raised levels added).numbers, WholeText.Fits n) :
    parse? (e.raised levels added).text =
      .ok (if e.Takes added then some (e.raised levels added) else none) := by
  have hnonneg : 0 ≤ levels := Int.le_trans Int.one_nonneg hlevels
  have hnatural : ∀ t ∈ (e.raised levels added).terms, t.Natural :=
    natural_addDice (Int.mul_nonneg hadded.count hnonneg) hadded.sides
      fun t ht => (he.1 t ht).natural
  rw [parse?_text_of_natural hnatural (.inl (addDice_ne_nil _ _ _)) hfits]
  exact congrArg _ (ite_congr (propext (valid_raised_iff he hlevels hadded)) (fun _ => rfl)
    fun _ => rfl)

end Expression

/-- The dice that a rule adds to an expression; flat damage has none. -/
def addedDice? (e : Expression) (rule : Option String) : Option WrittenTerm :=
  if e.isFlat then none else rule.bind ruleDice?

/-- Above the level of the spell, the text of the damage is left alone or gets the dice of
the rule. -/
theorem scaleText?_eq {text : String} {baseLevel castLevel : Int} {rule : Option String}
    {e : Expression} (he : Expression.parse? text = .ok (some e)) (h : baseLevel < castLevel) :
    scaleText? text baseLevel castLevel rule =
      match addedDice? e rule with
      | none => .ok text
      | some w => raisedText? e (castLevel - baseLevel) w := by
  have hdice : withDice? text = .ok (if e.isFlat then none else some e) := by
    rw [withDice?, he]
    cases hflat : e.isFlat with
    | true => exact congrArg Except.ok (if_neg (by simp [hflat]))
    | false => exact congrArg Except.ok (if_pos (by simp [hflat]))
  rw [scaleText?, addedDice?]
  cases rule with
  | none => cases e.isFlat <;> rfl
  | some rule =>
      by_cases hrule : rule = ""
      · subst hrule
        cases e.isFlat <;> rfl
      · have hgiven : (some rule).filter (fun rule => rule ≠ "") = some rule :=
          if_pos (decide_eq_true hrule)
        rw [hgiven]
        refine (congrArg (· >>= _) hdice).trans ?_
        cases e.isFlat with
        | true => rfl
        | false =>
            refine (if_neg (not_le.2 h)).trans ?_
            have hbind : (some rule).bind ruleDice? = ruleDice? rule := rfl
            simp only [Bool.false_eq_true, if_false, hbind]
            cases ruleDice? rule <;> rfl

/-- What the text of a stronger casting is read as: an expression, unless the rule has dice
that cannot be rolled with those of the damage. -/
theorem parse?_of_scaleText? {text scaled : String} {baseLevel castLevel : Int}
    {rule : Option String} {e : Expression} (he : Expression.parse? text = .ok (some e))
    (hlevel : baseLevel < castLevel)
    (h : scaleText? text baseLevel castLevel rule = .ok scaled) :
    ∃ parsed, Expression.parse? scaled = .ok parsed ∧
      (parsed.isSome = true ↔
        ∀ w ∈ addedDice? e rule, ∀ added, w.term? = .ok added → e.Takes added) := by
  rw [scaleText?_eq he hlevel] at h
  cases hdice : addedDice? e rule with
  | none =>
      rw [hdice] at h
      obtain rfl := Except.ok.inj h
      exact ⟨some e, he, iff_of_true rfl nofun⟩
  | some w =>
      rw [hdice] at h
      obtain ⟨added, hadded, hfits, rfl⟩ := Expression.raisedText?_eq_ok_iff.1 h
      have hread := Expression.parse?_text_raised (valid_of_parse? he) (by omega)
        (natural_of_term? hadded) hfits
      refine ⟨_, hread, ?_⟩
      constructor
      · intro hsome w' hw' added' hadded'
        obtain rfl : w = w' := Option.some.inj hw'
        obtain rfl := Except.ok.inj (hadded.symm.trans hadded')
        by_contra htakes
        rw [if_neg htakes] at hsome
        exact absurd hsome Bool.false_ne_true
      · intro hall
        rw [if_pos (hall w rfl added hadded)]
        rfl

end ExpectedDamage.Dice
