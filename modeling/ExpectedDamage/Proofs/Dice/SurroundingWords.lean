import ExpectedDamage.Proofs.Dice.Canonical
/-!
# Words around the dice

Damage stands between words, and blanks do not keep them apart from it. A word in front
does not disturb the reading unless its last letter is the one of a die: then the count of
the first group is read as the sides of a die of its own. A word behind does not disturb
it unless it begins with that letter and a modifier stands in front of it: then the
modifier is taken for a count of dice and is lost.
-/

namespace ExpectedDamage.Dice

open Text

/-- The marks of a word. -/
def wordMarks (word : List Char) : List Piece := (word.map Char.toLower).map .mark

theorem ofText_word_append {word text : List Char} (h : IsWord word) :
    Piece.ofText (word.map Char.toLower ++ text) = wordMarks word ++ Piece.ofText text := by
  apply Piece.ofText_append_marks
  simpa using fun c hc => isDigit_toLower_of_isAlpha (h c hc)

theorem endsNumber_word {word : List Char} (h : IsWord word) :
    EndsNumber (word.map Char.toLower) := by
  cases word with
  | nil => exact endsNumber_nil
  | cons c word => exact endsNumber_cons (isDigit_toLower_of_isAlpha (h c List.mem_cons_self))

theorem isPlain_word {word : List Char} (h : IsWord word) :
    ∀ c ∈ word.map Char.toLower, IsPlain c := by
  simpa using fun c hc => isPlain_toLower_of_isAlpha (h c hc)

theorem ne_sign_word {word : List Char} (h : IsWord word) :
    ∀ c ∈ word.map Char.toLower, c ≠ '+' ∧ c ≠ '-' := by
  have hletter : ∀ c : Char, c.isAlpha = true → c.toLower ≠ '+' ∧ c.toLower ≠ '-' :=
    fun c hc => forall_ascii
      (P := fun c => c.isAlpha = true → c.toLower ≠ '+' ∧ c.toLower ≠ '-')
      (by decide +kernel) (toNat_lt_of_isAlpha hc) hc
  simpa using fun c hc => hletter c (h c hc)

theorem beginsWithDie_wordMarks (word : List Char) :
    beginsWithDie (wordMarks word) = false ↔ ∀ c ∈ word.head?, c.toLower ≠ 'd' := by
  cases word with
  | nil => simp [wordMarks, beginsWithDie]
  | cons c word =>
      by_cases hc : c.toLower = 'd'
      · simp [wordMarks, beginsWithDie, hc]
      · simp [wordMarks, beginsWithDie, hc]

theorem getLast?_lower_ne_iff (word : List Char) :
    (word.map Char.toLower).getLast? ≠ some 'd' ↔ ∀ c ∈ word.getLast?, c.toLower ≠ 'd' := by
  rw [List.getLast?_map]
  cases word.getLast? <;> simp

theorem loose_wordMarks (word : List Char) : Loose (wordMarks word) := loose_marks _

theorem allMatches_termAt?_wordMarks (word : List Char) :
    allMatches termAt? (wordMarks word) = [] := allMatches_termAt?_map_mark _

/-! A phrase between two words. -/

/-- The pieces of a phrase between two words. -/
def Phrase.between (p : Phrase) (pre post : List Char) : List Piece :=
  wordMarks pre ++ (p.pieces ++ wordMarks post)

theorem Phrase.ofText_between (p : Phrase) {pre post : List Char} (hpre : IsWord pre)
    (hpost : IsWord post) :
    Piece.ofText (pre.map Char.toLower ++ (p.chars ++ post.map Char.toLower)) =
      p.between pre post := by
  have hword : Piece.ofText (post.map Char.toLower ++ []) = wordMarks post ++ [] :=
    ofText_word_append hpost
  rw [List.append_nil, List.append_nil] at hword
  rw [ofText_word_append hpre, p.ofText_chars_append (endsNumber_word hpost), hword, between]

/-- The search for dice passes over a word in front that does not end in the letter of a
die, and over any word behind. -/
theorem Phrase.allMatches_termAt?_between (p : Phrase) {pre : List Char}
    (h : (pre.map Char.toLower).getLast? ≠ some 'd') (post : List Char) :
    allMatches termAt? (p.between pre post) = p.groups.map Group.written := by
  rw [between, wordMarks, allMatches_termAt?_marks h,
    allMatches_termAt?_phrase p (loose_wordMarks post), allMatches_termAt?_wordMarks,
    List.append_nil]

/-- What is found where the letter of a die stands in front of a group with a count: the
count as the sides of a die, and the group without its count. -/
def Group.glued (g : Group) (n : Numeral) : List Group :=
  [⟨none, n, none⟩, ⟨none, g.sides, g.keep⟩]

theorem allMatches_termAt?_glued {g : Group} {n : Numeral} (hcount : g.count = some n)
    (marks : List Char) {rest : List Piece} (h : keepAt? rest = none) :
    allMatches termAt? ((marks ++ ['d']).map .mark ++ (g.pieces ++ rest)) =
      (g.glued n).map Group.written ++ allMatches termAt? rest := by
  let die : Group := ⟨none, g.sides, g.keep⟩
  have hpieces : (marks ++ ['d']).map .mark ++ (g.pieces ++ rest) =
      marks.map .mark ++ .mark 'd' :: .number n.digits :: (die.pieces ++ rest) := by
    simp [Group.pieces, hcount, die]
  have hne : [Piece.mark 'd', Piece.number n.digits] ≠ [] := List.cons_ne_nil _ _
  have hfirst : allMatches termAt? (.mark 'd' :: .number n.digits :: (die.pieces ++ rest)) =
      ⟨none, n.digits, none⟩ :: allMatches termAt? (die.pieces ++ rest) :=
    allMatches_append_of_some hne rfl
  rw [hpieces, allMatches_termAt?_marks_cons, hfirst, allMatches_termAt?_group die h]
  rfl

theorem allMatches_modifierAt?_dice (gs : List Group) (rest : List Piece) :
    allMatches modifierAt?
      ((gs.map fun g => Component.plus (.dice g)).flatMap Component.pieces ++ rest) =
        allMatches modifierAt? rest := by
  induction gs with
  | nil => rfl
  | cons g gs ih =>
      rw [List.map_cons, List.flatMap_cons, List.append_assoc,
        allMatches_modifierAt?_component, ih]
      simp [Component.flats, Item.flats]

theorem allMatches_modifierAt?_flatsOf (modifier : Int) (rest : List Piece) :
    allMatches modifierAt?
      (((flatsOf modifier).map Flat.component).flatMap Component.pieces ++ rest) =
        (if beginsWithDie rest then [] else (flatsOf modifier).map Flat.written) ++
          allMatches modifierAt? rest := by
  by_cases h : modifier = 0
  · simp [flatsOf, h]
  · rw [flatsOf, if_neg h, List.map_singleton, List.flatMap_singleton,
      allMatches_modifierAt?_component, Flat.flats_component]

/-! The canonical text between two words. -/

namespace Expression

/-- What is found in front of the rest of a text: the modifier, unless the letter of a die
follows it. -/
def flatsBefore (e : Expression) (post : List Char) : List Flat :=
  if beginsWithDie (wordMarks post) then [] else flatsOf e.modifier

theorem modifiersOf_between {e : Expression} (h : e.Valid) (hterms : e.terms ≠ [])
    {pre post : List Char} (hpre : IsWord pre) (hpost : IsWord post) :
    modifiersOf ((e.phrase h).between pre post) =
      (e.flatsBefore post).map Flat.written := by
  obtain ⟨terms, modifier⟩ := e
  obtain ⟨t, ts, rfl⟩ := List.exists_cons_of_ne_nil hterms
  have hpieces : (phrase ⟨t :: ts, modifier⟩ h).pieces =
      t.group.pieces ++ (((ts.map Term.group).map fun g => Component.plus (.dice g)).flatMap
        Component.pieces ++ ((flatsOf modifier).map Flat.component).flatMap
          Component.pieces) := by
    rw [List.map_map, ← List.flatMap_append]
    rfl
  have hleading : leadingModifier? ((phrase ⟨t :: ts, modifier⟩ h).between pre post) = none := by
    cases pre with
    | nil =>
        rw [Phrase.between, hpieces, List.append_assoc]
        exact Phrase.leadingModifier?_group t.group _
    | cons c pre => rfl
  have hword : allMatches modifierAt? (wordMarks post ++ []) = [] :=
    allMatches_modifierAt?_marks (ne_sign_word hpost) []
  rw [List.append_nil] at hword
  rw [modifiersOf, hleading, Phrase.between, wordMarks,
    allMatches_modifierAt?_marks (ne_sign_word hpre), hpieces, List.append_assoc,
    allMatches_modifierAt?_group, List.append_assoc, allMatches_modifierAt?_dice,
    allMatches_modifierAt?_flatsOf, hword, flatsBefore]
  cases beginsWithDie (wordMarks post) <;> simp

theorem short_flatsBefore {e : Expression} (hfits : ∀ n ∈ e.numbers, WholeText.Fits n)
    (post : List Char) : ∀ f ∈ e.flatsBefore post, f.size.Short := by
  have hmodifier : WholeText.Fits e.modifier := hfits e.modifier (by simp [numbers])
  rw [flatsBefore]
  split
  · exact List.forall_mem_nil _
  · exact (short_flatsOf_iff e.modifier).2 hmodifier

theorem wholeSum_flatsBefore (e : Expression) (post : List Char) :
    wholeSum ((e.flatsBefore post).map Flat.amount) =
      if beginsWithDie (wordMarks post) then 0 else e.modifier := by
  rw [flatsBefore]
  split
  · rfl
  · exact wholeSum_flatsOf e.modifier

/-- Behind a word that does not end in the letter of a die, the terms are read. -/
theorem readPieces_between {e : Expression} (h : e.Valid) (hterms : e.terms ≠ [])
    (hfits : ∀ n ∈ e.numbers, WholeText.Fits n) {pre post : List Char} (hpre : IsWord pre)
    (hpost : IsWord post) (hlast : (pre.map Char.toLower).getLast? ≠ some 'd') :
    readPieces ((e.phrase h).between pre post) =
      .ok ⟨e.terms, if beginsWithDie (wordMarks post) then 0 else e.modifier⟩ := by
  have hvalid : ∀ g ∈ (e.phrase h).groups, g.Short ∧ g.term.Valid := fun g hg =>
    ⟨(short_phrase h hfits).1 g hg, valid_of_mem_groups_phrase h g hg⟩
  have hgroups : (e.phrase h).groups ≠ [] := by simpa [groups_phrase] using hterms
  have hread := readPieces_eq_ok ((e.phrase h).allMatches_termAt?_between hlast post)
    (modifiersOf_between h hterms hpre hpost) hvalid (short_flatsBefore hfits post)
    (Or.inl hgroups)
  have hphrase : (e.phrase h).groups.map Group.term = e.terms :=
    congrArg terms (phrase_expression h)
  rwa [hphrase, wholeSum_flatsBefore] at hread

/-- The groups that are found behind a word that ends in the letter of a die. -/
def gluedGroups (t : Term) (ts : List Term) : List Group :=
  t.group.glued (.ofNat t.count.natAbs) ++ ts.map Term.group

theorem allMatches_termAt?_gluedGroups {t : Term} {ts : List Term} {modifier : Int}
    (h : (⟨t :: ts, modifier⟩ : Expression).Valid) {pre : List Char}
    (hlast : (pre.map Char.toLower).getLast? = some 'd') (post : List Char) :
    allMatches termAt? ((phrase ⟨t :: ts, modifier⟩ h).between pre post) =
      (gluedGroups t ts).map Group.written := by
  obtain ⟨marks, hmarks⟩ := List.getLast?_eq_some_iff.1 hlast
  let signed := ts.map (fun t => Component.plus (.dice t.group)) ++
    (flatsOf modifier).map Flat.component
  have hphrase : phrase ⟨t :: ts, modifier⟩ h = ⟨some (.dice t.group), signed, nofun⟩ := rfl
  have hgroups : signed.flatMap Component.groups = ts.map Term.group := by
    have hall := groups_phrase h
    rw [hphrase] at hall
    exact (List.cons.inj hall).2
  have hloose : Loose (signed.flatMap Component.pieces ++ wordMarks post) :=
    loose_signed signed (loose_wordMarks post)
  have hpieces : (phrase ⟨t :: ts, modifier⟩ h).between pre post =
      (marks ++ ['d']).map .mark ++
        (t.group.pieces ++ (signed.flatMap Component.pieces ++ wordMarks post)) := by
    rw [hphrase, Phrase.between, wordMarks, hmarks, ← List.append_assoc t.group.pieces]
    rfl
  rw [hpieces, allMatches_termAt?_glued rfl marks hloose.keepAt?,
    allMatches_termAt?_signed signed (loose_wordMarks post), hgroups,
    allMatches_termAt?_wordMarks, List.append_nil, gluedGroups, List.map_append]

theorem short_gluedGroups {t : Term} {ts : List Term}
    (h : ∀ x ∈ t :: ts, x.group.Short) : ∀ g ∈ gluedGroups t ts, g.Short := by
  obtain ⟨ht, hts⟩ := List.forall_mem_cons.1 h
  obtain ⟨hcount, hsides, hkeep⟩ := t.group.short_iff.1 ht
  have hcount : (Numeral.ofNat t.count.natAbs).Short := hcount _ rfl
  have hfirst : Group.Short ⟨none, .ofNat t.count.natAbs, none⟩ :=
    (Group.short_iff _).2 ⟨nofun, hcount, nofun⟩
  have hsecond : Group.Short ⟨none, t.group.sides, t.group.keep⟩ :=
    (Group.short_iff _).2 ⟨nofun, hsides, hkeep⟩
  rw [gluedGroups, Group.glued, List.forall_mem_append, List.forall_mem_map]
  exact ⟨by simp [hfirst, hsecond], hts⟩

/-- Behind a word that ends in the letter of a die, one term too many is found, so the
expression is not read. -/
theorem readPieces_gluedGroups {e : Expression} (h : e.Valid) (hterms : e.terms ≠ [])
    (hfits : ∀ n ∈ e.numbers, WholeText.Fits n) {pre post : List Char} (hpre : IsWord pre)
    (hpost : IsWord post) (hlast : (pre.map Char.toLower).getLast? = some 'd') :
    readPieces ((e.phrase h).between pre post) ≠ .ok e := by
  have hflats := modifiersOf_between h hterms hpre hpost
  have hshort : ∀ g ∈ (e.phrase h).groups, g.Short := (short_phrase h hfits).1
  have hamounts := short_flatsBefore hfits post
  obtain ⟨terms, modifier⟩ := e
  obtain ⟨t, ts, rfl⟩ := List.exists_cons_of_ne_nil hterms
  have hfound := allMatches_termAt?_gluedGroups h hlast post
  have hshort : ∀ g ∈ gluedGroups t ts, g.Short := by
    rw [groups_phrase, List.forall_mem_map] at hshort
    exact short_gluedGroups hshort
  -- If all groups found can be rolled, the result has one term more than the expression.
  by_cases hspoiled : Spoiled (gluedGroups t ts)
  · obtain ⟨w, hw⟩ := validTerms_written_of_spoiled hspoiled
    rw [← hfound] at hw
    rw [readPieces_of_error hw]
    simp
  · have hread := readPieces_eq_ok hfound hflats (valid_of_not_spoiled hspoiled hshort)
      hamounts (Or.inl (List.cons_ne_nil _ _))
    rw [hread]
    intro heq
    have hlength := congrArg (fun e => e.terms.length) (Except.ok.inj heq)
    simp [gluedGroups, Group.glued] at hlength

theorem parse?_between {e : Expression} (h : e.Valid) {pre post : String}
    (hpre : IsWord pre.toList) (hpost : IsWord post.toList) :
    parse? (pre ++ " " ++ e.text ++ " " ++ post) =
      Refusal.answer (readPieces ((e.phrase h).between pre.toList post.toList)) := by
  have hblank : isBlank ' ' = true := by decide
  have hspelling : Spelling (pre ++ " " ++ e.text ++ " " ++ post).toList
      (pre.toList.map Char.toLower ++
        ((e.phrase h).chars ++ post.toList.map Char.toLower)) := by
    have hspace : (" " : String).toList = [' '] := rfl
    simp only [String.toList_append, hspace, List.append_assoc, List.singleton_append, text,
      String.toList_ofList]
    rw [chars_phrase]
    exact (spelling_of_isWord hpre).append
      (.blank hblank ((Spelling.refl e.chars).append (.blank hblank (spelling_of_isWord hpost))))
  have hplain : ∀ c ∈ pre.toList.map Char.toLower ++
      ((e.phrase h).chars ++ post.toList.map Char.toLower), IsPlain c := by
    rw [List.forall_mem_append, List.forall_mem_append]
    exact ⟨isPlain_word hpre, (e.phrase h).isPlain_chars, isPlain_word hpost⟩
  rw [parse?_of_spelling hspelling hplain (by simp [(e.phrase h).chars_ne_nil]),
    Phrase.ofText_between _ hpre hpost]

/-- The expression is read from its canonical text between two words exactly if no number
is too long, the word in front does not end in the letter of a die, and the word behind does
not begin with it unless there is no modifier. -/
theorem parse?_between_words {e : Expression} (h : e.Valid) (hterms : e.terms ≠ [])
    {pre post : String} (hpre : IsWord pre.toList) (hpost : IsWord post.toList) :
    (do parse? (pre ++ " " ++ (← e.text?) ++ " " ++ post)) = .ok (some e) ↔
      (∀ n ∈ e.numbers, WholeText.Fits n) ∧ (∀ c ∈ pre.toList.getLast?, c.toLower ≠ 'd') ∧
        (e.modifier = 0 ∨ ∀ c ∈ post.toList.head?, c.toLower ≠ 'd') := by
  rw [text?, WholeText.showing?, ← getLast?_lower_ne_iff, ← beginsWithDie_wordMarks]
  by_cases hfits : ∀ n ∈ e.numbers, WholeText.Fits n
  · rw [if_pos hfits, and_iff_right hfits]
    have hparse : parse? (pre ++ " " ++ e.text ++ " " ++ post) = .ok (some e) ↔
        readPieces ((e.phrase h).between pre.toList post.toList) = .ok e := by
      rw [parse?_between h hpre hpost, Refusal.answer_eq_some_iff]
    refine hparse.trans ?_
    by_cases hlast : (pre.toList.map Char.toLower).getLast? = some 'd'
    · have hne := readPieces_gluedGroups h hterms hfits hpre hpost hlast
      exact ⟨fun hread => absurd hread hne, fun hall => absurd hlast hall.1⟩
    · rw [readPieces_between h hterms hfits hpre hpost hlast, and_iff_right hlast]
      obtain ⟨terms, modifier⟩ := e
      cases beginsWithDie (wordMarks post.toList) with
      | true => simp [eq_comm]
      | false => simp
  · rw [if_neg hfits]
    refine iff_of_false (fun hread => ?_) fun h => hfits h.1
    cases hread

/-- Neither a word in front nor one behind disturbs these dice, as no modifier stands in
front of the letter of a die. -/
theorem parse?_between_words_fire_damage :
    let e : Expression := ⟨[⟨2, 6, none⟩, ⟨1, 8, none⟩], 0⟩
    e.Valid ∧ e.terms ≠ [] ∧ IsWord "fire".toList ∧ IsWord "damage".toList ∧
      (do parse? ("fire" ++ " " ++ (← e.text?) ++ " " ++ "damage")) = .ok (some e) := by
  intro e
  have h : e.Valid := by decide
  have hpre : IsWord "fire".toList := by simp [IsWord]
  have hpost : IsWord "damage".toList := by simp [IsWord]
  have hlast : ∀ c ∈ "fire".toList.getLast?, c.toLower ≠ 'd' := by simp
  have hterms : e.terms ≠ [] := List.cons_ne_nil _ _
  have hread := parse?_between_words h hterms hpre hpost
  exact ⟨h, hterms, hpre, hpost, hread.2 ⟨by decide, hlast, Or.inl rfl⟩⟩

end Expression

end ExpectedDamage.Dice
