import ExpectedDamage.Proofs.Dice.Grammar
import Mathlib.Algebra.Group.Int.Defs
/-!
# The canonical text is a phrase

The canonical text of an expression that can be rolled is a phrase: a group for each term
with all its numbers written out, and the modifier as one flat number unless it is zero.
The phrase says the expression (`phrase_expression`), and reading it does not end early
exactly if every number of the expression fits into a text (`readable_phrase_iff`). The text
of an expression that cannot be rolled is a phrase as well if no number of its terms has a
sign, and it is read as no expression (`parse?_text_of_natural`).
-/

namespace ExpectedDamage.Dice

open Text

theorem chars_of_nonneg {n : Int} (h : 0 ≤ n) :
    WholeText.chars n = (Numeral.ofNat n.natAbs).digits := by
  rw [WholeText.chars, if_neg (Int.not_lt.2 h)]
  rfl

theorem value_ofNat_natAbs {n : Int} (h : 0 ≤ n) :
    ((Numeral.ofNat n.natAbs).value : Int) = n := by
  rw [Numeral.value_ofNat]
  omega

/-! The group of a term. -/

/-- A term whose numbers have no sign. -/
structure Term.Natural (t : Term) : Prop where
  count : 0 ≤ t.count
  sides : 0 ≤ t.sides
  keep : ∀ rule ∈ t.keep, 0 ≤ rule.count

theorem Term.Valid.natural {t : Term} (h : t.Valid) : t.Natural where
  count := Int.le_trans Int.one_nonneg h.1
  sides := Int.le_trans Int.one_nonneg h.2.1
  keep rule hrule := Int.le_trans Int.one_nonneg (h.2.2 rule hrule).1

/-- A term with all its numbers written out. -/
def Term.group (t : Term) : Group where
  count := some (.ofNat t.count.natAbs)
  sides := .ofNat t.sides.natAbs
  keep := t.keep.map fun rule => (rule.mode, .ofNat rule.count.natAbs)

theorem Term.group_term {t : Term} (h : t.Natural) : t.group.term = t := by
  obtain ⟨count, sides, keep⟩ := t
  have hkeep : (keep.map fun rule =>
      (⟨rule.mode, ((Numeral.ofNat rule.count.natAbs).value : Int)⟩ : KeepRule)) = keep := by
    cases keep with
    | none => rfl
    | some rule => rw [Option.map_some, value_ofNat_natAbs (h.keep rule rfl)]
  simp only [group, Group.term, Option.map_some, Option.getD_some, Option.map_map]
  rw [value_ofNat_natAbs h.count, value_ofNat_natAbs h.sides]
  exact congrArg (Term.mk count sides) hkeep

theorem Term.group_chars {t : Term} (h : t.Natural) : t.group.chars = t.chars := by
  obtain ⟨count, sides, keep⟩ := t
  have hcount := chars_of_nonneg h.count
  have hsides := chars_of_nonneg h.sides
  cases keep with
  | none => simp [group, Group.chars, Group.keepChars, chars, *]
  | some rule =>
      have hrule := chars_of_nonneg (h.keep rule rfl)
      simp [group, Group.chars, Group.keepChars, chars, KeepRule.chars, *]

theorem Term.short_group_iff (t : Term) :
    t.group.Short ↔ ∀ n ∈ t.numbers, WholeText.Fits n := by
  obtain ⟨count, sides, keep⟩ := t
  cases keep <;> simp [Group.Short, Group.numerals, group, numbers, Numeral.short_ofNat_natAbs_iff]

/-! The flat number of a modifier. -/

/-- The component that is a flat number. -/
def Flat.component (f : Flat) : Component :=
  if f.negative then .minus f.size else .plus (.flat f.size)

@[simp] theorem Flat.groups_component (f : Flat) : f.component.groups = [] := by
  rw [component]
  split <;> rfl

@[simp] theorem Flat.flats_component (f : Flat) : f.component.flats = [f] := by
  obtain ⟨negative, size⟩ := f
  cases negative <;> rfl

/-- The modifier as a flat number, unless it is zero. -/
def flatsOf (modifier : Int) : List Flat :=
  if modifier = 0 then [] else [⟨modifier < 0, .ofNat modifier.natAbs⟩]

theorem amount_modifier (modifier : Int) :
    Flat.amount ⟨modifier < 0, .ofNat modifier.natAbs⟩ = modifier := by
  rw [Flat.amount, Numeral.value_ofNat]
  by_cases h : modifier < 0
  · rw [if_pos (decide_eq_true h)]
    omega
  · rw [if_neg (by simpa using h)]
    omega

theorem wholeSum_flatsOf (modifier : Int) :
    wholeSum ((flatsOf modifier).map Flat.amount) = modifier := by
  by_cases h : modifier = 0
  · rw [flatsOf, if_pos h, h]
    rfl
  · rw [flatsOf, if_neg h, List.map_singleton, amount_modifier, wholeSum_cons, wholeSum_nil,
      Int.add_zero]

theorem short_flatsOf_iff (modifier : Int) :
    (∀ f ∈ flatsOf modifier, f.size.Short) ↔ WholeText.Fits modifier := by
  by_cases h : modifier = 0
  · have hzero : WholeText.Fits 0 := by decide
    simp [flatsOf, h, hzero]
  · simp [flatsOf, h, Numeral.short_ofNat_natAbs_iff]

/-- A modifier behind some terms is written with its sign. -/
theorem chars_flatsOf (modifier : Int) :
    ((flatsOf modifier).map Flat.component).flatMap Component.chars =
      modifierChars true modifier := by
  by_cases h : modifier = 0
  · simp [flatsOf, modifierChars, h]
  · by_cases hneg : modifier < 0
    · have hpos : ¬ 0 < modifier := by omega
      simp [flatsOf, modifierChars, h, hneg, hpos, Flat.component, Component.chars,
        WholeText.chars, Numeral.ofNat]
    · have hpos : 0 < modifier := by omega
      simp [flatsOf, modifierChars, h, hneg, hpos, Flat.component, Component.chars,
        Item.chars, WholeText.chars, Numeral.ofNat]

/-! The phrase of an expression. -/

/-- The phrase of some components, the first of which goes without a plus sign. -/
def Phrase.ofComponents : (cs : List Component) → cs ≠ [] → Phrase
  | .plus item :: cs, _ => ⟨some item, cs, nofun⟩
  | .minus size :: cs, _ => ⟨none, .minus size :: cs, fun _ => nofun⟩

theorem Phrase.groups_ofComponents {cs : List Component} (h : cs ≠ []) :
    (ofComponents cs h).groups = cs.flatMap Component.groups := by
  match cs with
  | .plus item :: cs => simp [ofComponents, groups, Component.groups]
  | .minus size :: cs => simp [ofComponents, groups]

theorem Phrase.flats_ofComponents {cs : List Component} (h : cs ≠ []) :
    (ofComponents cs h).flats = cs.flatMap Component.flats := by
  match cs with
  | .plus item :: cs => simp [ofComponents, flats, Component.flats]
  | .minus size :: cs => simp [ofComponents, flats]

/-- The text of some components without a plus sign at the beginning. -/
def barePlusChars : List Component → List Char
  | .plus item :: cs => item.chars ++ cs.flatMap Component.chars
  | cs => cs.flatMap Component.chars

theorem Phrase.chars_ofComponents {cs : List Component} (h : cs ≠ []) :
    (ofComponents cs h).chars = barePlusChars cs := by
  match cs with
  | .plus item :: cs => rfl
  | .minus size :: cs => rfl

/-- A flat number that stands alone has no plus sign. -/
theorem barePlusChars_flatsOf {modifier : Int} (h : modifier ≠ 0) :
    barePlusChars ((flatsOf modifier).map Flat.component) = modifierChars false modifier := by
  by_cases hneg : modifier < 0
  · simp [flatsOf, barePlusChars, modifierChars, h, hneg, Flat.component, Component.chars,
      WholeText.chars, Numeral.ofNat]
  · simp [flatsOf, barePlusChars, modifierChars, h, hneg, Flat.component, Item.chars,
      WholeText.chars, Numeral.ofNat]

namespace Expression

/-- The terms and the modifier, each with its sign. -/
def components (e : Expression) : List Component :=
  e.terms.map (fun t => .plus (.dice t.group)) ++ (flatsOf e.modifier).map Flat.component

theorem components_ne_nil_of_ne {e : Expression} (h : e.terms ≠ [] ∨ e.modifier ≠ 0) :
    e.components ≠ [] := by
  cases hterms : e.terms with
  | nil =>
      have hmodifier : e.modifier ≠ 0 := h.resolve_left (not_not_intro hterms)
      simp [components, hterms, flatsOf, hmodifier]
  | cons t ts => simp [components, hterms]

theorem components_ne_nil {e : Expression} (h : e.Valid) : e.components ≠ [] :=
  components_ne_nil_of_ne h.2

theorem groups_components (e : Expression) :
    e.components.flatMap Component.groups = e.terms.map Term.group := by
  have hterms : (e.terms.map fun t => Component.plus (.dice t.group)).flatMap
      Component.groups = e.terms.map Term.group := by
    rw [List.flatMap_map]
    exact List.map_eq_flatMap.symm
  have hflats : ((flatsOf e.modifier).map Flat.component).flatMap Component.groups = [] := by
    simp [List.flatMap_map]
  rw [components, List.flatMap_append, hterms, hflats, List.append_nil]

theorem flats_components (e : Expression) :
    e.components.flatMap Component.flats = flatsOf e.modifier := by
  have hterms : (e.terms.map fun t => Component.plus (.dice t.group)).flatMap
      Component.flats = [] := by
    simp [Component.flats, Item.flats]
  have hflats : ((flatsOf e.modifier).map Flat.component).flatMap Component.flats =
      flatsOf e.modifier := by
    simp [List.flatMap_map]
  rw [components, List.flatMap_append, hterms, hflats, List.nil_append]

/-- The components of an expression without signs say that expression. -/
theorem expression_ofComponents {e : Expression} (hne : e.components ≠ [])
    (h : ∀ t ∈ e.terms, t.Natural) : (Phrase.ofComponents e.components hne).expression = e := by
  have hterms : (e.terms.map Term.group).map Group.term = e.terms := by
    rw [List.map_map]
    exact (List.map_congr_left fun t ht => Term.group_term (h t ht)).trans (List.map_id _)
  rw [Phrase.expression, Phrase.groups_ofComponents, Phrase.flats_ofComponents,
    groups_components, flats_components, hterms, wholeSum_flatsOf]

/-- No numeral of the components is too long exactly if all numbers fit. -/
theorem short_ofComponents_iff {e : Expression} (hne : e.components ≠ []) :
    ((∀ g ∈ (Phrase.ofComponents e.components hne).groups, g.Short) ∧
        ∀ f ∈ (Phrase.ofComponents e.components hne).flats, f.size.Short) ↔
      ∀ n ∈ e.numbers, WholeText.Fits n := by
  rw [Phrase.groups_ofComponents, Phrase.flats_ofComponents, groups_components, flats_components,
    short_flatsOf_iff, numbers]
  simp only [List.forall_mem_map, Term.short_group_iff, List.forall_mem_append,
    List.forall_mem_flatMap, List.forall_mem_singleton]

/-- The phrase in the canonical text of an expression. -/
def phrase (e : Expression) (h : e.Valid) : Phrase :=
  .ofComponents e.components (components_ne_nil h)

theorem groups_phrase {e : Expression} (h : e.Valid) :
    (e.phrase h).groups = e.terms.map Term.group := by
  rw [phrase, Phrase.groups_ofComponents, groups_components]

theorem phrase_expression {e : Expression} (h : e.Valid) : (e.phrase h).expression = e :=
  expression_ofComponents _ fun t ht => (h.1 t ht).natural

theorem valid_of_mem_groups_phrase {e : Expression} (h : e.Valid) :
    ∀ g ∈ (e.phrase h).groups, g.term.Valid := by
  have hterms : ∀ t ∈ (e.phrase h).expression.terms, t.Valid := by
    rw [phrase_expression h]
    exact h.1
  simpa [Phrase.expression] using hterms

theorem not_spoiled_phrase {e : Expression} (h : e.Valid) : ¬ Spoiled (e.phrase h).groups :=
  fun hspoiled => not_valid_of_spoiled hspoiled (valid_of_mem_groups_phrase h)

theorem readable_phrase_iff {e : Expression} (h : e.Valid) :
    (e.phrase h).Readable ↔ ∀ n ∈ e.numbers, WholeText.Fits n := by
  rw [Phrase.Readable, or_iff_right (not_spoiled_phrase h)]
  exact short_ofComponents_iff _

/-- Where all numbers fit, no numeral of the phrase is too long. -/
theorem short_phrase {e : Expression} (h : e.Valid)
    (hfits : ∀ n ∈ e.numbers, WholeText.Fits n) :
    (∀ g ∈ (e.phrase h).groups, g.Short) ∧ ∀ f ∈ (e.phrase h).flats, f.size.Short :=
  (short_ofComponents_iff _).2 hfits

/-- Behind the first term, every term stands with its plus sign. -/
theorem termsChars_cons {t : Term} {ts : List Term} (h : ∀ x ∈ t :: ts, x.Natural) :
    termsChars (t :: ts) = t.group.chars ++
      (ts.map fun t => Component.plus (.dice t.group)).flatMap Component.chars := by
  induction ts generalizing t with
  | nil => simp [termsChars, Term.group_chars (h t List.mem_cons_self)]
  | cons t' ts ih =>
      obtain ⟨ht, hts⟩ := List.forall_mem_cons.1 h
      rw [termsChars, ih hts, Term.group_chars ht, List.map_cons, List.flatMap_cons]
      · rfl
      · simp

/-- The canonical text of an expression without signs is that of its components. -/
theorem chars_ofComponents {e : Expression} (hne : e.terms ≠ [] ∨ e.modifier ≠ 0)
    (h : ∀ t ∈ e.terms, t.Natural) :
    (Phrase.ofComponents e.components (components_ne_nil_of_ne hne)).chars = e.chars := by
  obtain ⟨terms, modifier⟩ := e
  rw [Phrase.chars_ofComponents]
  cases terms with
  | nil => exact barePlusChars_flatsOf (hne.resolve_left (not_not_intro rfl))
  | cons t ts =>
      rw [components, List.map_cons, List.cons_append, barePlusChars, List.flatMap_append,
        chars_flatsOf, ← List.append_assoc, Item.chars, ← termsChars_cons h]
      rfl

/-- The canonical text is the phrase. -/
theorem chars_phrase {e : Expression} (h : e.Valid) : (e.phrase h).chars = e.chars :=
  chars_ofComponents h.2 fun t ht => (h.1 t ht).natural

/-! Reading the canonical text. -/

theorem parse?_text {e : Expression} (h : e.Valid) :
    parse? e.text =
      if ∀ n ∈ e.numbers, WholeText.Fits n then .ok (some e) else .error .tooLong := by
  rw [text, ← chars_phrase h, Phrase.parse?_ofList_chars, phrase_expression, if_pos h]
  exact ite_congr (propext (readable_phrase_iff h)) (fun _ => rfl) fun _ => rfl

/-- The text of an expression without signs is read as it, if it can be rolled, and else as
no expression. -/
theorem parse?_text_of_natural {e : Expression} (h : ∀ t ∈ e.terms, t.Natural)
    (hne : e.terms ≠ [] ∨ e.modifier ≠ 0) (hfits : ∀ n ∈ e.numbers, WholeText.Fits n) :
    parse? e.text = .ok (if e.Valid then some e else none) := by
  have hcomponents := components_ne_nil_of_ne hne
  have hreadable : (Phrase.ofComponents e.components hcomponents).Readable :=
    .inr ((short_ofComponents_iff hcomponents).2 hfits)
  rw [text, ← chars_ofComponents hne h, Phrase.parse?_ofList_chars, if_pos hreadable,
    expression_ofComponents hcomponents h]

/-- What is written like an expression is read as it. -/
theorem parse?_eq_of_text_eq {e : Expression} {written : String} (h : e.Valid)
    (hfits : ∀ n ∈ e.numbers, WholeText.Fits n) (htext : e.text = written) :
    parse? written = .ok (some e) := by
  rw [← htext, parse?_text h, if_pos hfits]

/-- An expression that can be rolled is written and read back as itself, and a number that
is too long is the only reason why writing it fails. -/
theorem text?_bind_parse? {e : Expression} (h : e.Valid) :
    e.text? >>= parse? =
      if ∀ n ∈ e.numbers, WholeText.Fits n then .ok (some e) else .error .tooLong := by
  rw [text?, WholeText.showing?]
  by_cases hfits : ∀ n ∈ e.numbers, WholeText.Fits n
  · rw [if_pos hfits, if_pos hfits]
    exact (parse?_text h).trans (if_pos hfits)
  · rw [if_neg hfits, if_neg hfits]
    rfl

/-- Two terms, one with a keep rule, and a negative modifier. -/
theorem text?_bind_parse?_two_terms :
    let e : Expression := ⟨[⟨2, 10, none⟩, ⟨4, 6, some ⟨.highest, 3⟩⟩], -12⟩
    e.Valid ∧ e.text? = .ok "2d10+4d6kh3-12" ∧ e.text? >>= parse? = .ok (some e) := by
  intro e
  have h : e.Valid := by decide
  have htext : e.text? = .ok "2d10+4d6kh3-12" :=
    WholeText.showing?_eq_ok_iff.2 ⟨by decide, by decide⟩
  exact ⟨h, htext, (text?_bind_parse? h).trans (if_pos (by decide))⟩

/-- The modifier of this expression has one digit more than a text has room for. -/
theorem text?_bind_parse?_ten_pow :
    let e : Expression := ⟨[⟨1, 6, none⟩], 10 ^ WholeText.digitLimit⟩
    e.Valid ∧ e.text? >>= parse? = .error .tooLong := by
  intro e
  have hlong : ¬ WholeText.Fits e.modifier := by
    have hten : (10 : Int).natAbs = 10 := rfl
    rw [WholeText.Fits, Int.natAbs_pow, hten,
      Nat.length_toDigits_le_iff (by decide) (by decide)]
    exact Nat.lt_irrefl _
  have hnumbers : ¬ ∀ n ∈ e.numbers, WholeText.Fits n := fun h =>
    hlong (h e.modifier (by simp [numbers]))
  have htext : e.text? = .error .tooLong := if_neg hnumbers
  rw [htext]
  exact ⟨⟨by decide, Or.inl (List.cons_ne_nil _ _)⟩, rfl⟩

end Expression

end ExpectedDamage.Dice
