import ExpectedDamage.Dice.Statistics
import ExpectedDamage.Proofs.Dice.Scaling
/-!
# Scaling in steps

A casting several levels above the level of a spell can be scaled through any level between
them, because the dice of a second step join the very term that the first step has left
(`addDice_addDice`). The text between the steps is read as what the first step has
written, or as no expression if it has written a term without dice; such a term has none
after the second step either. The number of dice of a cantrip is forgotten when another one is
set, unless it has too many digits for the text between the steps (`scale_in_steps`).
-/

namespace ExpectedDamage

/-- A number that is not larger has no more digits. -/
theorem WholeText.Fits.of_le {m n : Int} (h : WholeText.Fits n) (hm : 0 ≤ m) (hmn : m ≤ n) :
    WholeText.Fits m := by
  rw [WholeText.Fits, Nat.length_toDigits_le_iff (by decide) (by decide)] at h ⊢
  exact Nat.lt_of_le_of_lt (by omega) h

namespace Dice

/-! Dice that are added twice. -/

theorem addDice_addDice (first second sides : Int) (terms : List Term) :
    addDice second sides (addDice first sides terms) = addDice (first + second) sides terms := by
  induction terms with
  | nil => exact if_pos rfl
  | cons t rest ih =>
      rw [addDice, addDice]
      by_cases h : t.sides = sides
      · rw [if_pos h, if_pos h, addDice, if_pos h, Int.add_assoc]
      · rw [if_neg h, if_neg h, addDice, if_neg h, ih]

/-- Terms that fit into a text with dice added to them fit with fewer dice. -/
theorem fits_addDice_of_le {fewer more sides : Int} {terms : List Term} (hfewer : 0 ≤ fewer)
    (hle : fewer ≤ more) (hterms : ∀ t ∈ terms, t.Natural)
    (h : ∀ t ∈ addDice more sides terms, ∀ n ∈ t.numbers, WholeText.Fits n) :
    ∀ t ∈ addDice fewer sides terms, ∀ n ∈ t.numbers, WholeText.Fits n := by
  induction terms with
  | nil =>
      simp only [addDice, List.forall_mem_singleton, Term.numbers, List.forall_mem_cons] at h ⊢
      exact ⟨h.1.of_le hfewer hle, h.2⟩
  | cons t rest ih =>
      obtain ⟨ht, hrest⟩ := List.forall_mem_cons.1 hterms
      rw [addDice] at h ⊢
      by_cases hsides : t.sides = sides
      · rw [if_pos hsides, List.forall_mem_cons] at h ⊢
        simp only [Term.numbers, List.forall_mem_cons] at h ⊢
        have hcount := ht.count
        exact ⟨⟨h.1.1.of_le (by omega) (by omega), h.1.2⟩, h.2⟩
      · rw [if_neg hsides, List.forall_mem_cons] at h ⊢
        exact ⟨h.1, ih hrest h.2⟩

namespace Expression

theorem raised_raised (e : Expression) (first second : Int) (added : Term) :
    (e.raised first added).raised second added = e.raised (first + second) added := by
  rw [raised, raised, raised, addDice_addDice, Int.mul_add]

theorem fits_raised_of_le {e : Expression} {added : Term} {fewer more : Int} (he : e.Valid)
    (hadded : added.Natural) (hfewer : 0 ≤ fewer) (hle : fewer ≤ more)
    (h : ∀ n ∈ (e.raised more added).numbers, WholeText.Fits n) :
    ∀ n ∈ (e.raised fewer added).numbers, WholeText.Fits n := by
  have hcount : added.count * fewer ≤ added.count * more :=
    Int.mul_le_mul_of_nonneg_left hle hadded.count
  simp only [numbers, List.forall_mem_append, List.forall_mem_flatMap] at h ⊢
  exact ⟨fits_addDice_of_le (Int.mul_nonneg hadded.count hfewer) hcount
    (fun t ht => (he.1 t ht).natural) h.1, h.2⟩

end Expression

/-! Two steps of a spell. -/

variable {text : String} {rule : Option String} {l m n : Int}

/-- A text that can be read is left alone at the level of the spell, and at any level if it is
no expression. -/
theorem scaleText?_eq_self {parsed : Option Expression}
    (hparse : Expression.parse? text = .ok parsed) (h : n ≤ l ∨ parsed = none) :
    scaleText? text l n rule = .ok text := by
  have hdice : withDice? text = .ok (parsed.filter fun e => !e.isFlat) := by
    rw [withDice?, hparse]
    rfl
  rw [scaleText?, hdice]
  cases rule.filter (· ≠ "") with
  | none => rfl
  | some rule =>
      cases hfound : parsed.filter fun e => !e.isFlat with
      | none => rfl
      | some e =>
          rcases h with hle | rfl
          · exact if_pos hle
          · exact absurd hfound.symm (Option.some_ne_none e)

/-- A text that cannot be read gives the same at all levels: itself without a rule, and a fault
with one. -/
theorem scaleText?_of_error {fault : ArithmeticFault}
    (hparse : Expression.parse? text = .error fault) (rule : Option String) :
    (∀ l n, scaleText? text l n rule = .ok text) ∨
      ∀ l n, scaleText? text l n rule = .error fault := by
  have hdice : withDice? text = .error fault := by
    rw [withDice?, hparse]
    rfl
  simp only [scaleText?, hdice]
  cases rule.filter (· ≠ "") with
  | none => exact .inl fun _ _ => rfl
  | some rule => exact .inr fun _ _ => rfl

/-- Dice that an expression does not take are no dice at all, and stay so at all levels. -/
theorem Expression.raised_eq_of_not_takes {e : Expression} {added : Term} (hadded : added.Natural)
    (hsides : 1 ≤ added.sides) (h : ¬ e.Takes added) (first second : Int) :
    e.raised first added = e.raised second added := by
  have hcount : added.count = 0 := by
    have hone : ¬ 1 ≤ added.count := fun hone => h ⟨hsides, .inl hone⟩
    have hnonneg := hadded.count
    omega
  rw [raised, raised, hcount, Int.zero_mul, Int.zero_mul]

/-- The dice of a rule, if it has any, have a side. -/
def HasSides (rule : Option String) : Prop :=
  ∀ w ∈ rule.bind ruleDice?, 1 ≤ Text.digitsValue w.sides

instance (rule : Option String) : Decidable (HasSides rule) :=
  inferInstanceAs (Decidable (∀ w ∈ rule.bind ruleDice?, _))

theorem sides_of_term? {w : WrittenTerm} {t : Term} (h : w.term? = .ok t) :
    t.sides = Text.digitsValue w.sides := by
  rw [WrittenTerm.term?_eq] at h
  obtain ⟨count, -, h⟩ := bind_eq_ok_iff.1 h
  obtain ⟨sides, hsides, h⟩ := bind_eq_ok_iff.1 h
  obtain ⟨keep, -, h⟩ := bind_eq_ok_iff.1 h
  obtain rfl := Except.ok.inj h
  rw [WholeText.value?] at hsides
  split at hsides
  · exact congrArg Int.ofNat (Except.ok.inj hsides).symm
  · exact nomatch hsides

/-- What the first step writes is read as such, or as no expression if it has a term without
dice. -/
theorem raisedText?_bind_scaleText? {e : Expression} {w : WrittenTerm} {added : Term}
    (he : e.Valid) (hrule : rule.bind ruleDice? = some w) (hadded : w.term? = .ok added)
    (hsides : 1 ≤ added.sides) (hlm : l < m) (hmn : m ≤ n) :
    (raisedText? e (m - l) w >>= fun scaled => scaleText? scaled m n rule) =
      raisedText? e (n - l) w := by
  have hnatural := natural_of_term? hadded
  have hsum : m - l + (n - m) = n - l := by omega
  rw [Expression.raisedText?_eq hadded, Expression.raisedText?_eq hadded]
  by_cases hfits : ∀ k ∈ (e.raised (m - l) added).numbers, WholeText.Fits k
  · have hfirst : (e.raised (m - l) added).text? = .ok (e.raised (m - l) added).text :=
      if_pos hfits
    have hread := Expression.parse?_text_raised he (by omega) hnatural hfits
    rw [hfirst]
    change scaleText? (e.raised (m - l) added).text m n rule = _
    by_cases htakes : e.Takes added
    · rw [if_pos htakes] at hread
      rcases hmn.eq_or_lt with rfl | hlt
      · rw [scaleText?_eq_self hread (.inl le_rfl), hfirst]
      · have hadds : addedDice? (e.raised (m - l) added) rule = some w := by
          have hne : (e.raised (m - l) added).terms ≠ [] := addDice_ne_nil _ _ _
          rw [addedDice?, Expression.isFlat, List.isEmpty_eq_false_iff.2 hne]
          exact hrule
        rw [scaleText?_eq hread hlt, hadds]
        refine (Expression.raisedText?_eq hadded).trans ?_
        rw [Expression.raised_raised, hsum]
    · rw [if_neg htakes] at hread
      rw [scaleText?_eq_self hread (.inr rfl), ← hfirst,
        Expression.raised_eq_of_not_takes hnatural hsides htakes]
  · have hlong : ¬ ∀ k ∈ (e.raised (n - l) added).numbers, WholeText.Fits k := fun h =>
      hfits (Expression.fits_raised_of_le he hnatural (by omega) (by omega) h)
    rw [Expression.text?, WholeText.showing?, if_neg hfits, Expression.text?,
      WholeText.showing?, if_neg hlong]
    rfl

theorem bind_of_addedDice? {e : Expression} {w : WrittenTerm} (h : addedDice? e rule = some w) :
    rule.bind ruleDice? = some w := by
  rw [addedDice?] at h
  split at h
  · exact absurd h.symm (Option.some_ne_none w)
  · exact h

theorem scaleText?_bind_scaleText? (hlm : l ≤ m) (hmn : m ≤ n) (hrule : HasSides rule) :
    (scaleText? text l m rule >>= fun scaled => scaleText? scaled m n rule) =
      scaleText? text l n rule := by
  cases hparse : Expression.parse? text with
  | error fault =>
      rcases scaleText?_of_error hparse rule with hself | herror
      · rw [hself, hself]
        exact hself m n
      · rw [herror, herror]
        rfl
  | ok parsed =>
      rcases hlm.eq_or_lt with rfl | hlt
      · rw [scaleText?_eq_self hparse (.inl le_rfl)]
        rfl
      · cases parsed with
        | none =>
            rw [scaleText?_eq_self hparse (.inr rfl), scaleText?_eq_self hparse (.inr rfl)]
            exact scaleText?_eq_self hparse (.inr rfl)
        | some e =>
            rw [scaleText?_eq hparse hlt, scaleText?_eq hparse (hlt.trans_le hmn)]
            cases hdice : addedDice? e rule with
            | none =>
                change scaleText? text m n rule = .ok text
                rcases hmn.eq_or_lt with rfl | hlt'
                · exact scaleText?_eq_self hparse (.inl le_rfl)
                · rw [scaleText?_eq hparse hlt', hdice]
            | some w =>
                have hwritten := bind_of_addedDice? hdice
                cases hadded : w.term? with
                | error fault =>
                    simp only [raisedText?, hadded]
                    rfl
                | ok added =>
                    have hsides : 1 ≤ added.sides := by
                      rw [sides_of_term? hadded]
                      exact_mod_cast hrule w hwritten
                    exact raisedText?_bind_scaleText? (valid_of_parse? hparse) hwritten hadded
                      hsides hlt hmn

/-! Two steps of a cantrip. -/

/-- The damage of a cantrip with another number of dice of its first term. -/
def cantripDamage (first : Term) (modifier dice : Int) : Expression :=
  ⟨[{ first with count := dice, keep := none }], modifier⟩

theorem fits_cantripDamage_iff {first : Term} {modifier dice : Int} :
    (∀ n ∈ (cantripDamage first modifier dice).numbers, WholeText.Fits n) ↔
      WholeText.Fits dice ∧ WholeText.Fits first.sides ∧ WholeText.Fits modifier := by
  simp [cantripDamage, Expression.numbers, Term.numbers]

theorem valid_cantripDamage {first : Term} {dice : Int} (hdice : 1 ≤ dice)
    (hsides : 1 ≤ first.sides) (modifier : Int) : (cantripDamage first modifier dice).Valid :=
  ⟨List.forall_mem_singleton.2 ⟨hdice, hsides, nofun⟩, .inl (List.cons_ne_nil _ _)⟩

theorem minimum_cantripDamage (first : Term) (modifier dice : Int) :
    (cantripDamage first modifier dice).minimum = dice + modifier := by
  simp only [cantripDamage, Expression.minimum, List.map_cons, List.map_nil, wholeSum_cons,
    wholeSum_nil, Term.keptCount]
  omega

theorem maximum_cantripDamage (first : Term) (modifier dice : Int) :
    (cantripDamage first modifier dice).maximum = dice * first.sides + modifier := by
  simp only [cantripDamage, Expression.maximum, List.map_cons, List.map_nil, wholeSum_cons,
    wholeSum_nil, Term.keptCount]
  omega

/-- A text has dice to be set exactly if it is read as an expression with a term. -/
theorem hasDice_iff : hasDice text = true ↔ ∃ first rest modifier,
    Expression.parse? text = .ok (some ⟨first :: rest, modifier⟩) := by
  rw [hasDice, withDice?]
  cases Expression.parse? text with
  | error fault => exact iff_of_false Bool.false_ne_true (by simp)
  | ok parsed =>
      cases parsed with
      | none => exact iff_of_false Bool.false_ne_true (by simp)
      | some e =>
          obtain ⟨terms, modifier⟩ := e
          cases terms with
          | nil => exact iff_of_false Bool.false_ne_true (by simp)
          | cons first rest => exact iff_of_true rfl ⟨first, rest, modifier, rfl⟩

/-- A text that has no dice to be set is left alone, or gives the same fault for all numbers. -/
theorem scaleCantripText?_of_not_hasDice (h : hasDice text = false) :
    (∃ fault, ∀ dice, scaleCantripText? text dice = .error fault) ∨
      ∀ dice, scaleCantripText? text dice = .ok text := by
  have hnone := mt hasDice_iff.2 (Bool.eq_false_iff.1 h)
  simp only [scaleCantripText?]
  cases hparse : Expression.parse? text with
  | error fault => exact .inl ⟨fault, fun _ => rfl⟩
  | ok parsed =>
      cases parsed with
      | none => exact .inr fun _ => rfl
      | some e =>
          obtain ⟨terms, modifier⟩ := e
          cases terms with
          | nil => exact .inr fun _ => rfl
          | cons first rest => exact absurd ⟨first, rest, modifier, hparse⟩ hnone

theorem scaleCantripText?_eq {first : Term} {rest : List Term} {modifier : Int}
    (hparse : Expression.parse? text = .ok (some ⟨first :: rest, modifier⟩)) (dice : Int) :
    scaleCantripText? text dice = (cantripDamage first modifier dice).text? := by
  rw [scaleCantripText?, hparse]
  rfl

/-- A number of dice that has been set is forgotten when another one is. -/
theorem cantripDamage_bind_scaleCantripText? {first : Term} (hsides : 1 ≤ first.sides)
    (modifier : Int) (hm : 1 ≤ m) (hfits : WholeText.Fits m) :
    ((cantripDamage first modifier m).text? >>= fun scaled => scaleCantripText? scaled n) =
      (cantripDamage first modifier n).text? := by
  by_cases hnumbers : ∀ k ∈ (cantripDamage first modifier m).numbers, WholeText.Fits k
  · have hwritten : (cantripDamage first modifier m).text? =
        .ok (cantripDamage first modifier m).text := if_pos hnumbers
    have hread := (Expression.parse?_text (valid_cantripDamage hm hsides modifier)).trans
      (if_pos hnumbers)
    rw [hwritten]
    exact scaleCantripText?_eq hread n
  · -- The number of dice is not to blame, so no other number can be set either.
    have hlong : ¬ ∀ k ∈ (cantripDamage first modifier n).numbers, WholeText.Fits k := by
      rw [fits_cantripDamage_iff] at hnumbers ⊢
      exact fun h => hnumbers ⟨hfits, h.2⟩
    rw [Expression.text?, WholeText.showing?, if_neg hnumbers, Expression.text?,
      WholeText.showing?, if_neg hlong]
    rfl

/-- A number of dice that is too long for a text cannot be set. -/
theorem scaleCantripText?_of_not_fits (hdice : hasDice text = true) (hm : ¬ WholeText.Fits m) :
    scaleCantripText? text m = .error .tooLong := by
  obtain ⟨first, rest, modifier, hparse⟩ := hasDice_iff.1 hdice
  refine (scaleCantripText?_eq hparse m).trans (if_neg ?_)
  exact fun h => hm (fits_cantripDamage_iff.1 h).1

theorem scaleCantripText?_bind_scaleCantripText? (hm : 1 ≤ m)
    (h : WholeText.Fits m ∨ hasDice text = false) :
    (scaleCantripText? text m >>= fun scaled => scaleCantripText? scaled n) =
      scaleCantripText? text n := by
  cases hdice : hasDice text with
  | false =>
      rcases scaleCantripText?_of_not_hasDice hdice with ⟨fault, herror⟩ | hself
      · rw [herror, herror]
        rfl
      · rw [hself, hself]
        exact hself n
  | true =>
      have hfits : WholeText.Fits m := h.resolve_right fun hnone =>
        Bool.false_ne_true (hnone.symm.trans hdice)
      obtain ⟨first, rest, modifier, hparse⟩ := hasDice_iff.1 hdice
      have hsides : 1 ≤ first.sides := ((valid_of_parse? hparse).1 first List.mem_cons_self).2.1
      rw [scaleCantripText?_eq hparse, scaleCantripText?_eq hparse]
      exact cantripDamage_bind_scaleCantripText? hsides modifier hm hfits

/-! Two steps of a damage that may be missing. -/

theorem map_bind_mapM {f g : String → Except ArithmeticFault String} (base : Option String) :
    (base.mapM f >>= fun scaled => scaled.mapM g) = base.mapM fun text => f text >>= g := by
  cases base with
  | none => rfl
  | some text =>
      change (some <$> f text) >>= _ = some <$> (f text >>= g)
      cases f text <;> rfl

/-- Scaling through a level in between gives the same text or the same fault, if the dice of the
rule have a side. Setting the number of dice of a cantrip twice is setting it to the second
number, unless there are dice to be set and the first number has too many digits for a text. -/
theorem scale_in_steps (base rule : Option String) :
    (∀ l m n, l ≤ m → m ≤ n → HasSides rule →
      (scaleForSlot? base l m rule >>= fun scaled => scaleForSlot? scaled m n rule) =
        scaleForSlot? base l n rule) ∧
    ∀ m n, 1 ≤ m → (scaleCantrip? base m >>= fun scaled => scaleCantrip? scaled n) =
      if WholeText.Fits m ∨ base.any hasDice = false then scaleCantrip? base n
      else .error .tooLong := by
  constructor
  · intro l m n hlm hmn hrule
    refine (map_bind_mapM base).trans ?_
    simp only [scaleText?_bind_scaleText? hlm hmn hrule]
    rfl
  · intro m n hm
    refine (map_bind_mapM base).trans ?_
    cases base with
    | none =>
        rw [if_pos (.inr rfl)]
        rfl
    | some text =>
        change some <$> (scaleCantripText? text m >>= fun scaled => scaleCantripText? scaled n) = _
        split_ifs with h
        · rw [scaleCantripText?_bind_scaleCantripText? hm h]
          rfl
        · obtain ⟨hlong, hdice⟩ := not_or.1 h
          rw [scaleCantripText?_of_not_fits (Bool.of_not_eq_false hdice) hlong]
          rfl

/-- Two steps of a spell whose dice join none of the damage, and two of a cantrip with a keep
rule. -/
theorem scale_in_steps_new_die :
    HasSides (some "2d4 per level") ∧
      (scaleForSlot? (some "8D6 + 1d8") 3 4 (some "2d4 per level") >>= fun scaled =>
        scaleForSlot? scaled 4 6 (some "2d4 per level")) = .ok (some "8d6+1d8+6d4") ∧
      (scaleCantrip? (some "2d20kl1+3") 2 >>= fun scaled => scaleCantrip? scaled 4) =
        .ok (some "4d20+3") := by
  have hsides : HasSides (some "2d4 per level") := by decide +kernel
  refine ⟨hsides, ?_, ?_⟩
  · rw [(scale_in_steps _ _).1 3 4 6 (by decide) (by decide) hsides]
    decide +kernel
  · rw [(scale_in_steps _ none).2 2 4 (by decide), if_pos (.inl (by decide))]
    decide +kernel

/-- A first number of dice with a digit too many ends the scaling, where the second number alone
can be set. -/
theorem scale_in_steps_long_number :
    let long : Int := (10 ^ WholeText.digitLimit : Nat)
    1 ≤ long ∧
      (scaleCantrip? (some "1d6") long >>= fun scaled => scaleCantrip? scaled 2) =
        .error .tooLong ∧
      scaleCantrip? (some "1d6") 2 = .ok (some "2d6") := by
  intro long
  have hpos : 0 < 10 ^ WholeText.digitLimit := Nat.pow_pos (by decide)
  have hlong : ¬ WholeText.Fits long := by
    rw [WholeText.fits_natCast_iff]
    exact Nat.lt_irrefl _
  have hfirst : scaleCantripText? "1d6" long = .error .tooLong :=
    scaleCantripText?_of_not_fits (by decide +kernel) hlong
  refine ⟨Int.ofNat_le.2 hpos, ?_, by decide +kernel⟩
  refine (map_bind_mapM (some "1d6")).trans ?_
  rw [Option.mapM_some, hfirst]
  rfl

end Dice

end ExpectedDamage
