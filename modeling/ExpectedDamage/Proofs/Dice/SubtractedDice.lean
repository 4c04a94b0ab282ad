import ExpectedDamage.Dice.Statistics
import ExpectedDamage.Proofs.Dice.Canonical
/-!
# Dice behind a minus sign

No search of the reader takes in the sign in front of dice. A term has no sign in it, so the
search for dice finds the same groups behind either sign; and a signed number that counts dice is
left to that search. So a minus sign in front of dice is read like a plus sign, whatever stands
around them (`readPieces_minus`), and dice that a text takes away are added
(`Expression.parse?_minus_term`).
-/

namespace ExpectedDamage.Dice

open Text

theorem beginsWithDie_cons (a : Piece) (rest rest' : List Piece) :
    beginsWithDie (a :: rest) = beginsWithDie (a :: rest') := by
  cases a with
  | number digits => rfl
  | mark c => by_cases hdie : c = 'd' <;> simp [beginsWithDie, hdie]

/-- Of what stands behind a signed number, only the letter of a die matters. -/
theorem modifierAt?_congr {rest rest' : List Piece} (h : beginsWithDie rest = beginsWithDie rest')
    (a b : Piece) : modifierAt? (a :: b :: rest) = modifierAt? (a :: b :: rest') := by
  match a, b with
  | .mark s, .number _ =>
      by_cases hplus : s = '+' <;> by_cases hminus : s = '-' <;> simp [modifierAt?, *]
  | .number _, _ | .mark _, .mark _ => simp [modifierAt?]

section Sign

variable {c : Char} (hc : c = '+' ∨ c = '-')
include hc

/-! What begins in front of a sign is found without what stands behind it. -/

theorem keepAt?_append_sign (pre rest : List Piece) :
    keepAt? (pre ++ .mark c :: rest) = keepAt? pre := by
  match pre with
  | [] | [_] | [_, _] => obtain rfl | rfl := hc <;> simp [keepAt?]
  | .mark k :: .mark letter :: .number _ :: _ =>
      by_cases hk : k = 'k' <;> by_cases hhighest : letter = 'h' <;>
        by_cases hlowest : letter = 'l' <;> simp [keepAt?, *]
  | .number _ :: _ :: _ :: _ | .mark _ :: .number _ :: _ :: _
  | .mark _ :: .mark _ :: .mark _ :: _ => simp [keepAt?]

theorem withKeep_append_sign (count : Option (List Char)) (sides : List Char) (size : Nat)
    (pre rest : List Piece) :
    withKeep count sides size (pre ++ .mark c :: rest) = withKeep count sides size pre := by
  rw [withKeep, keepAt?_append_sign hc, withKeep]

theorem termAt?_append_sign (pre rest : List Piece) :
    termAt? (pre ++ .mark c :: rest) = termAt? pre := by
  match pre with
  | [] | [.mark _] | [.number _] => obtain rfl | rfl := hc <;> simp [termAt?]
  | [.number _, .mark _] | .number _ :: .number _ :: _ | .number _ :: .mark _ :: .mark _ :: _
  | .mark _ :: .mark _ :: _ => simp [termAt?]
  | .number count :: .mark d :: .number sides :: pre =>
      by_cases hd : d = 'd'
      · simp [termAt?, hd, withKeep_append_sign hc]
      · simp [termAt?, hd]
  | .mark d :: .number sides :: pre =>
      by_cases hd : d = 'd'
      · simp [termAt?, hd, withKeep_append_sign hc]
      · simp [termAt?, hd]

/-- The sign itself is no modifier of dice that it stands in front of. -/
theorem modifierAt?_append_sign (pre rest : List Piece) (g : Group) :
    modifierAt? (pre ++ .mark c :: (g.pieces ++ rest)) = modifierAt? pre := by
  match pre with
  | [] =>
      obtain ⟨count, sides, keep⟩ := g
      obtain rfl | rfl := hc <;> cases count <;> simp [Group.pieces, modifierAt?, beginsWithDie]
  | [_] => simp [modifierAt?]
  | [a, b] =>
      have hdie : beginsWithDie (.mark c :: (g.pieces ++ rest)) = beginsWithDie [] := by
        obtain rfl | rfl := hc <;> rfl
      exact modifierAt?_congr hdie a b
  | a :: b :: next :: pre => exact modifierAt?_congr (beginsWithDie_cons next _ pre) a b

end Sign

/-- A number in front of the first sign is found in front of either. -/
theorem leadingModifier?_minus (pre rest : List Piece) :
    leadingModifier? (pre ++ .mark '-' :: rest) = leadingModifier? (pre ++ .mark '+' :: rest) := by
  match pre with
  | [] | [.number _] | [.mark _] => rfl
  | .number digits :: .mark s :: pre =>
      by_cases hplus : s = '+' <;> by_cases hminus : s = '-' <;> simp [leadingModifier?, *]
  | .mark _ :: _ :: _ | .number _ :: .number _ :: _ => simp [leadingModifier?]

/-! The reading of dice behind a sign. -/

/-- The sign in front of dice is read by no search. -/
theorem readPieces_minus (pre rest : List Piece) (g : Group) :
    readPieces (pre ++ .mark '-' :: (g.pieces ++ rest)) =
      readPieces (pre ++ .mark '+' :: (g.pieces ++ rest)) := by
  have hne (c : Char) : ∀ digits, pre ++ .mark c :: (g.pieces ++ rest) ≠ [.number digits] := by
    intro digits h
    have hmem : Piece.mark c ∈ [Piece.number digits] := h ▸ by simp
    simp at hmem
  have hterms : allMatches termAt? (pre ++ .mark '-' :: (g.pieces ++ rest)) =
      allMatches termAt? (pre ++ .mark '+' :: (g.pieces ++ rest)) := by
    refine matchesFrom_congr (fun pre => ?_) 0 pre
    rw [termAt?_append_sign (.inr rfl), termAt?_append_sign (.inl rfl)]
  have hsigned : allMatches modifierAt? (pre ++ .mark '-' :: (g.pieces ++ rest)) =
      allMatches modifierAt? (pre ++ .mark '+' :: (g.pieces ++ rest)) := by
    refine matchesFrom_congr (fun pre => ?_) 0 pre
    rw [modifierAt?_append_sign (.inr rfl), modifierAt?_append_sign (.inl rfl)]
  have hmodifiers : modifiersOf (pre ++ .mark '-' :: (g.pieces ++ rest)) =
      modifiersOf (pre ++ .mark '+' :: (g.pieces ++ rest)) := by
    rw [modifiersOf, modifiersOf, hsigned, leadingModifier?_minus]
  rw [readPieces_of_ne_number (hne '-'), readPieces_of_ne_number (hne '+'), hterms, hmodifiers]

/-! Dice behind a phrase. -/

/-- The phrase with dice added at its end. -/
def Phrase.plusDice (p : Phrase) (g : Group) : Phrase where
  opening := p.opening
  signed := p.signed ++ [.plus (.dice g)]
  ne_nil _ := by simp

namespace Phrase

theorem pieces_plusDice (p : Phrase) (g : Group) :
    (p.plusDice g).pieces = p.pieces ++ .mark '+' :: (g.pieces ++ []) := by
  simp [plusDice, pieces, Component.pieces, Item.pieces]

theorem groups_plusDice (p : Phrase) (g : Group) : (p.plusDice g).groups = p.groups ++ [g] := by
  simp [plusDice, groups, Component.groups, Item.groups]

theorem flats_plusDice (p : Phrase) (g : Group) : (p.plusDice g).flats = p.flats := by
  simp [plusDice, flats, Component.flats, Item.flats]

/-- A phrase from which dice are taken away is read as the phrase with the dice added. -/
theorem parse?_spelling_minus (p : Phrase) (g : Group) {text : String}
    (h : Spelling text.toList (p.chars ++ '-' :: g.chars)) :
    Expression.parse? text =
      if (p.plusDice g).Readable then
        .ok (if (p.plusDice g).expression.Valid then some (p.plusDice g).expression else none)
      else .error .tooLong := by
  have hplain : ∀ c ∈ p.chars ++ '-' :: g.chars, IsPlain c := by
    rw [List.forall_mem_append, List.forall_mem_cons]
    exact ⟨p.isPlain_chars, by decide, g.isPlain_chars⟩
  have hdice : Piece.ofText ('-' :: g.chars) = .mark '-' :: (g.pieces ++ []) := by
    have hgroup := g.ofText_chars_append endsNumber_nil
    rw [List.append_nil] at hgroup
    rw [Piece.ofText_cons_mark (by decide), hgroup]
    rfl
  have hpieces : Piece.ofText (p.chars ++ '-' :: g.chars) =
      p.pieces ++ .mark '-' :: (g.pieces ++ []) := by
    rw [p.ofText_chars_append (endsNumber_cons (by decide)), hdice]
  rw [parse?_of_spelling h hplain (by simp), hpieces, readPieces_minus, ← pieces_plusDice,
    answer_readPieces_phrase]

end Phrase

namespace Expression

/-- The expression with a term added at its end. -/
def plusTerm (e : Expression) (t : Term) : Expression where
  terms := e.terms ++ [t]
  modifier := e.modifier

theorem valid_plusTerm {e : Expression} {t : Term} (h : e.Valid) (ht : t.Valid) :
    (e.plusTerm t).Valid := by
  rw [Valid, plusTerm, List.forall_mem_append, List.forall_mem_singleton]
  exact ⟨⟨h.1, ht⟩, .inl (by simp)⟩

theorem minimum_plusTerm (e : Expression) (t : Term) :
    (e.plusTerm t).minimum = e.minimum + t.keptCount := by
  simp [plusTerm, minimum, Int.add_assoc]

theorem maximum_plusTerm (e : Expression) (t : Term) :
    (e.plusTerm t).maximum = e.maximum + t.keptCount * t.sides := by
  simp [plusTerm, maximum, Int.add_assoc]

theorem expression_plusDice {e : Expression} {t : Term} (h : e.Valid) (ht : t.Valid) :
    ((e.phrase h).plusDice t.group).expression = e.plusTerm t := by
  have hphrase := phrase_expression h
  have hterms : (e.phrase h).groups.map Group.term = e.terms := congrArg terms hphrase
  have hmodifier : wholeSum ((e.phrase h).flats.map Flat.amount) = e.modifier :=
    congrArg modifier hphrase
  rw [Phrase.expression, Phrase.groups_plusDice, Phrase.flats_plusDice, List.map_append, hterms,
    hmodifier, List.map_singleton, Term.group_term ht.natural]
  rfl

theorem readable_plusDice_iff {e : Expression} {t : Term} (h : e.Valid) (ht : t.Valid) :
    ((e.phrase h).plusDice t.group).Readable ↔ ∀ n ∈ e.numbers ++ t.numbers, WholeText.Fits n := by
  have hspoiled : ¬ Spoiled ((e.phrase h).plusDice t.group).groups := by
    refine fun hspoiled => not_valid_of_spoiled hspoiled ?_
    rw [Phrase.groups_plusDice, List.forall_mem_append, List.forall_mem_singleton,
      Term.group_term ht.natural]
    exact ⟨valid_of_mem_groups_phrase h, ht⟩
  have hshort : ((∀ g ∈ (e.phrase h).groups, g.Short) ∧ ∀ f ∈ (e.phrase h).flats, f.size.Short) ↔
      ∀ n ∈ e.numbers, WholeText.Fits n := short_ofComponents_iff _
  rw [Phrase.Readable, or_iff_right hspoiled, Phrase.groups_plusDice, Phrase.flats_plusDice,
    List.forall_mem_append, List.forall_mem_append, List.forall_mem_singleton,
    Term.short_group_iff, and_right_comm, hshort]

/-- Dice behind a minus sign are added to the expression in front of it, to its minimum and to
its maximum, unless a number is too long. -/
theorem parse?_minus_term {e : Expression} {t : Term} (h : e.Valid) (ht : t.Valid) :
    (do parse? ((← e.text?) ++ "-" ++ String.ofList t.chars)) =
        (if ∀ n ∈ e.numbers ++ t.numbers, WholeText.Fits n then .ok (some (e.plusTerm t))
        else .error .tooLong) ∧
      (e.plusTerm t).minimum = e.minimum + t.keptCount ∧
      (e.plusTerm t).maximum = e.maximum + t.keptCount * t.sides := by
  refine ⟨?_, e.minimum_plusTerm t, e.maximum_plusTerm t⟩
  have hspelling : Spelling (e.text ++ "-" ++ String.ofList t.chars).toList
      ((e.phrase h).chars ++ '-' :: t.group.chars) := by
    have hminus : ("-" : String).toList = ['-'] := rfl
    rw [String.toList_append, String.toList_append, hminus, text, String.toList_ofList,
      String.toList_ofList, chars_phrase, Term.group_chars ht.natural, List.append_assoc]
    exact .refl _
  have hread : parse? (e.text ++ "-" ++ String.ofList t.chars) =
      if ∀ n ∈ e.numbers ++ t.numbers, WholeText.Fits n then .ok (some (e.plusTerm t))
      else .error .tooLong := by
    rw [Phrase.parse?_spelling_minus _ _ hspelling, expression_plusDice h ht,
      if_pos (valid_plusTerm h ht)]
    exact ite_congr (propext (readable_plusDice_iff h ht)) (fun _ => rfl) fun _ => rfl
  rw [text?, WholeText.showing?]
  by_cases hfits : ∀ n ∈ e.numbers, WholeText.Fits n
  · rw [if_pos hfits]
    exact hread
  · have hall : ¬ ∀ n ∈ e.numbers ++ t.numbers, WholeText.Fits n := fun hall =>
      hfits (List.forall_mem_append.1 hall).1
    rw [if_neg hfits, if_neg hall]
    rfl

/-- A die that is to be taken away from kept dice, another die and a modifier. -/
theorem parse?_minus_term_one_die :
    let e : Expression := ⟨[⟨2, 6, some ⟨.highest, 1⟩⟩, ⟨1, 8, none⟩], 3⟩
    let t : Term := ⟨1, 4, none⟩
    e.Valid ∧ t.Valid ∧
      (do parse? ((← e.text?) ++ "-" ++ String.ofList t.chars)) =
        .ok (some ⟨[⟨2, 6, some ⟨.highest, 1⟩⟩, ⟨1, 8, none⟩, ⟨1, 4, none⟩], 3⟩) := by
  intro e t
  have h : e.Valid := by decide
  have ht : t.Valid := by decide
  have hfits : ∀ n ∈ e.numbers ++ t.numbers, WholeText.Fits n := by decide
  exact ⟨h, ht, (parse?_minus_term h ht).1.trans (if_pos hfits)⟩

end Expression

end ExpectedDamage.Dice
