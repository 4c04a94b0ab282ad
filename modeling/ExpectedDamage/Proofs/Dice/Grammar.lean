import ExpectedDamage.Proofs.Dice.Reading
/-!
# The grammar of the notation

A phrase, with blanks anywhere in it and letters of either case, is read as the expression
that it says, if that expression can be rolled and is not nothing, and as no expression
otherwise. The one exception are numbers with more digits than a text may have: then the
reading fails, unless a group of dice that cannot be rolled was met before
(`Phrase.Readable`).
-/

namespace ExpectedDamage.Dice

open Text

namespace Phrase

/-- Whether reading the phrase ends before a number that is too long: there is none, or a
group in front of it cannot be rolled. -/
def Readable (p : Phrase) : Prop :=
  Spoiled p.groups ∨ ((∀ g ∈ p.groups, g.Short) ∧ ∀ f ∈ p.flats, f.size.Short)

instance (p : Phrase) : Decidable p.Readable := inferInstanceAs (Decidable (_ ∨ _ ∧ _))

theorem chars_ne_nil (p : Phrase) : p.chars ≠ [] := by
  rw [chars]
  cases h : p.opening with
  | none =>
      cases hs : p.signed with
      | nil => exact absurd hs (p.ne_nil h)
      | cons c cs => cases c <;> simp [Component.chars]
  | some item =>
      cases item with
      | flat size => simp [Item.chars, size.ne_nil]
      | dice group => simp [Item.chars, Group.chars]

theorem ofText_chars (p : Phrase) : Piece.ofText p.chars = p.pieces := by
  simpa [Piece.ofText] using p.ofText_chars_append endsNumber_nil

theorem allMatches_termAt?_pieces (p : Phrase) :
    allMatches termAt? p.pieces = p.groups.map Group.written := by
  simpa using allMatches_termAt?_phrase p loose_nil

theorem allMatches_modifierAt?_pieces (p : Phrase) :
    allMatches modifierAt? p.pieces = (p.signed.flatMap Component.flats).map Flat.written := by
  have hnil : beginsWithDie [] = false := rfl
  simpa using allMatches_modifierAt?_phrase p hnil

theorem leadingModifier?_component (c : Component) (rest : List Piece) :
    leadingModifier? (c.pieces ++ rest) = none := by
  cases c <;> rfl

theorem leadingModifier?_group (g : Group) (rest : List Piece) :
    leadingModifier? (g.pieces ++ rest) = none := by
  obtain ⟨count, sides, keep⟩ := g
  cases count <;> rfl

theorem leadingModifier?_number (n : Numeral) (c : Component) (rest : List Piece) :
    leadingModifier? (.number n.digits :: (c.pieces ++ rest)) = some ⟨false, n.digits⟩ := by
  cases c <;> rfl

/-- Behind a first number without a sign, the number is found last. -/
theorem modifiersOf_pieces (p : Phrase) (h : p.signed ≠ [] ∨ p.groups ≠ []) :
    modifiersOf p.pieces =
      (p.signed.flatMap Component.flats ++ p.opening.toList.flatMap Item.flats).map
        Flat.written := by
  rw [modifiersOf, allMatches_modifierAt?_pieces, List.map_append, pieces]
  congr 1
  cases hopening : p.opening with
  | none =>
      cases hsigned : p.signed with
      | nil => exact absurd hsigned (p.ne_nil hopening)
      | cons c cs => simp [leadingModifier?_component]
  | some item =>
      cases item with
      | dice group => simp [Item.pieces, Item.flats, leadingModifier?_group]
      | flat size =>
          cases hsigned : p.signed with
          | nil => simp [groups, hopening, hsigned, Item.groups] at h
          | cons c cs =>
              simp [Item.pieces, Item.flats, leadingModifier?_number, Flat.written]

/-- Some sign stands in a phrase with a signed component. -/
theorem pieces_ne_number (p : Phrase) (h : p.signed ≠ []) (digits : List Char) :
    p.pieces ≠ [.number digits] := by
  intro hpieces
  obtain ⟨c, cs, hsigned⟩ := List.exists_cons_of_ne_nil h
  have hsign : ∃ s, Piece.mark s ∈ c.pieces := by
    cases c with
    | plus item => exact ⟨'+', List.mem_cons_self⟩
    | minus size => exact ⟨'-', List.mem_cons_self⟩
  obtain ⟨s, hs⟩ := hsign
  have hmem : Piece.mark s ∈ p.pieces := by
    rw [pieces, hsigned, List.flatMap_cons]
    exact List.mem_append_right _ (List.mem_append_left _ hs)
  rw [hpieces] at hmem
  simp at hmem

/-- Without a signed component and without dice, a phrase is a single number. -/
theorem exists_opening (p : Phrase) (hsigned : p.signed = []) (hgroups : p.groups = []) :
    ∃ n, p.opening = some (.flat n) := by
  cases hopening : p.opening with
  | none => exact absurd hsigned (p.ne_nil hopening)
  | some item =>
      cases item with
      | flat n => exact ⟨n, rfl⟩
      | dice group => simp [groups, hopening, Item.groups] at hgroups

theorem wholeSum_flats (p : Phrase) :
    wholeSum ((p.signed.flatMap Component.flats ++
      p.opening.toList.flatMap Item.flats).map Flat.amount) = p.expression.modifier := by
  rw [expression, flats, List.map_append, List.map_append, wholeSum_append, wholeSum_append,
    Int.add_comm]

theorem valid_expression_iff (p : Phrase) (h : ∀ g ∈ p.groups, g.term.Valid) :
    p.expression.Valid ↔ p.groups ≠ [] ∨ p.expression.modifier ≠ 0 := by
  have hterms : ∀ t ∈ p.expression.terms, t.Valid := by simpa [expression] using h
  rw [Expression.Valid, and_iff_right hterms]
  simp [expression]

end Phrase

/-- A phrase with dice or a sign, in which all groups can be rolled. -/
theorem answer_readPieces_of_valid (p : Phrase) (hp : p.signed ≠ [] ∨ p.groups ≠ [])
    (h : ∀ g ∈ p.groups, g.Short ∧ g.term.Valid) :
    Refusal.answer (readPieces p.pieces) =
      if ∀ f ∈ p.flats, f.size.Short then
        .ok (if p.expression.Valid then some p.expression else none)
      else .error .tooLong := by
  have hterms : validTerms (allMatches termAt? p.pieces) = .ok p.expression.terms := by
    rw [p.allMatches_termAt?_pieces, validTerms_written_of_valid h]
    rfl
  have hvalid := p.valid_expression_iff fun g hg => (h g hg).2
  have hamounts := mapM_value?_written
    (p.signed.flatMap Component.flats ++ p.opening.toList.flatMap Item.flats)
  rw [← p.modifiersOf_pieces hp] at hamounts
  have hflats : (∀ f ∈ p.signed.flatMap Component.flats ++
      p.opening.toList.flatMap Item.flats, f.size.Short) ↔ ∀ f ∈ p.flats, f.size.Short := by
    rw [Phrase.flats, List.forall_mem_append, List.forall_mem_append, and_comm]
  by_cases hshort : ∀ f ∈ p.flats, f.size.Short
  · rw [if_pos (hflats.2 hshort)] at hamounts
    rw [if_pos hshort]
    by_cases hne : p.groups ≠ [] ∨ p.expression.modifier ≠ 0
    · have hread := readPieces_of_validTerms hterms hamounts (by
        rw [p.wholeSum_flats]
        simpa [Phrase.expression] using hne)
      rw [if_pos (hvalid.2 hne), hread, p.wholeSum_flats]
      rfl
    · obtain ⟨hgroups, hzero⟩ := not_or.1 hne
      have hnil : p.expression.terms = [] := by
        rw [Phrase.expression, Decidable.not_not.1 hgroups]
        rfl
      rw [hnil] at hterms
      have hread := readPieces_of_zero hterms hamounts
        (p.wholeSum_flats.trans (Decidable.not_not.1 hzero))
        (p.pieces_ne_number (hp.resolve_right hgroups))
      rw [if_neg fun hv => hne (hvalid.1 hv), hread]
      rfl
  · rw [if_neg fun hall => hshort (hflats.1 hall)] at hamounts
    rw [if_neg hshort, readPieces_of_flat_error hterms hamounts]
    rfl

/-- A phrase that is a single number without a sign. -/
theorem answer_readPieces_of_number (p : Phrase) {n : Numeral}
    (hopening : p.opening = some (.flat n)) (hsigned : p.signed = []) :
    Refusal.answer (readPieces p.pieces) =
      if ∀ f ∈ p.flats, f.size.Short then
        .ok (if p.expression.Valid then some p.expression else none)
      else .error .tooLong := by
  have hpieces : p.pieces = [.number n.digits] := by
    simp [Phrase.pieces, hopening, hsigned, Item.pieces]
  have hflats : p.flats = [⟨false, n⟩] := by
    simp [Phrase.flats, hopening, hsigned, Item.flats]
  have hexpression : p.expression = ⟨[], n.value⟩ := by
    simp [Phrase.expression, Phrase.groups, hopening, hsigned, hflats, Item.groups,
      Flat.amount]
  have hvalid : (⟨[], n.value⟩ : Expression).Valid ↔ n.value ≠ 0 := by
    simp [Expression.Valid]
  have hall : (∀ f ∈ p.flats, f.size.Short) ↔ n.Short := by simp [hflats]
  rw [hpieces, readPieces_number, hexpression]
  by_cases hshort : n.Short
  · rw [if_pos hshort, if_pos (hall.2 hshort)]
    by_cases hzero : n.value = 0
    · rw [if_pos hzero, if_neg fun hv => hvalid.1 hv hzero]
      rfl
    · rw [if_neg hzero, if_pos (hvalid.2 hzero)]
      rfl
  · rw [if_neg hshort, if_neg fun h => hshort (hall.1 h)]
    rfl

/-- The reading of the pieces of a phrase. -/
theorem answer_readPieces_phrase (p : Phrase) :
    Refusal.answer (readPieces p.pieces) =
      if p.Readable then .ok (if p.expression.Valid then some p.expression else none)
      else .error .tooLong := by
  -- A group that cannot be rolled ends the reading before any flat number is looked at.
  by_cases hspoiled : Spoiled p.groups
  · have hvalid : ¬ p.expression.Valid := fun hv =>
      not_valid_of_spoiled hspoiled (by simpa [Phrase.expression] using hv.1)
    obtain ⟨w, hw⟩ := validTerms_written_of_spoiled hspoiled
    rw [← p.allMatches_termAt?_pieces] at hw
    have hreadable : p.Readable := Or.inl hspoiled
    rw [if_pos hreadable, if_neg hvalid, readPieces_of_error hw]
    rfl
  · by_cases hshort : ∀ g ∈ p.groups, g.Short
    · have hreadable : p.Readable ↔ ∀ f ∈ p.flats, f.size.Short := by
        rw [Phrase.Readable, or_iff_right hspoiled, and_iff_right hshort]
      rw [ite_congr (propext hreadable) (fun _ => rfl) (fun _ => rfl)]
      by_cases hp : p.signed ≠ [] ∨ p.groups ≠ []
      · exact answer_readPieces_of_valid p hp (valid_of_not_spoiled hspoiled hshort)
      · obtain ⟨hsigned, hgroups⟩ := not_or.1 hp
        have hsigned := Decidable.not_not.1 hsigned
        obtain ⟨n, hn⟩ := p.exists_opening hsigned (Decidable.not_not.1 hgroups)
        exact answer_readPieces_of_number p hn hsigned
    · have hreadable : ¬ p.Readable := fun h => h.elim hspoiled fun h => hshort h.1
      have hlong := validTerms_written_of_long hspoiled hshort
      rw [← p.allMatches_termAt?_pieces] at hlong
      rw [if_neg hreadable, readPieces_of_error hlong]
      rfl

/-- The reading of the text of a phrase. -/
theorem Phrase.parse?_ofList_chars (p : Phrase) :
    Expression.parse? (String.ofList p.chars) =
      if p.Readable then .ok (if p.expression.Valid then some p.expression else none)
      else .error .tooLong := by
  have hspelling : Spelling (String.ofList p.chars).toList p.chars := by
    rw [String.toList_ofList]
    exact .refl p.chars
  rw [parse?_of_spelling hspelling p.isPlain_chars p.chars_ne_nil, p.ofText_chars,
    answer_readPieces_phrase]

/-- A phrase is read as what it says, with blanks anywhere and letters of either case. -/
theorem Phrase.parse?_spelling (p : Phrase) {text : String} (h : Spelling text.toList p.chars) :
    Expression.parse? text =
      if p.Readable then .ok (if p.expression.Valid then some p.expression else none)
      else .error .tooLong := by
  rw [parse?_of_spelling h p.isPlain_chars p.chars_ne_nil, p.ofText_chars,
    answer_readPieces_phrase]

/-- A number in front of dice with a keep rule, blanks inside and capital letters. -/
theorem Phrase.parse?_spelling_mixed :
    let p : Phrase :=
      ⟨some (.flat (.ofNat 5)), [.plus (.dice ⟨some (.ofNat 2), .ofNat 6,
        some (.highest, .ofNat 1)⟩), .minus (.ofNat 10)], nofun⟩
    Spelling "5 +2D6Kh1- 1 0".toList p.chars ∧
      Expression.parse? "5 +2D6Kh1- 1 0" =
        .ok (some ⟨[⟨2, 6, some ⟨.highest, 1⟩⟩], -5⟩) := by
  intro p
  have htext : "5 +2D6Kh1- 1 0".toList =
      ['5', ' ', '+', '2', 'D', '6', 'K', 'h', '1', '-', ' ', '1', ' ', '0'] := by simp
  have hchars : p.chars = ['5', '+', '2', 'd', '6', 'k', 'h', '1', '-', '1', '0'] := by decide
  have h : Spelling "5 +2D6Kh1- 1 0".toList p.chars := by
    rw [htext, hchars]
    exact .same (.blank (by decide) (.same (.same (.capital (c := 'd') (.same
      (.capital (c := 'k') (.same (.same (.same (.blank (by decide) (.same
        (.blank (by decide) (.same .nil)))))))))))))
  refine ⟨h, (p.parse?_spelling h).trans ?_⟩
  rw [if_pos (by decide), if_pos (by decide)]
  rfl

end ExpectedDamage.Dice
