import ExpectedDamage.Proofs.Dice.Phrase
/-!
# What the three searches find in a phrase

The reader goes three times over the same pieces. The search for dice finds the groups of
a phrase and nothing else, the search for signed numbers its signed flat numbers, and the
look at the beginning a number without a sign. Each statement is about components in front
of any further pieces, so it also covers a phrase inside a longer text; what must be known
of the further pieces is said by `Loose` for dice and by `beginsWithDie` for numbers.
-/

namespace ExpectedDamage.Dice

open Text

/-- Pieces that neither add a keep rule to a group of dice in front of them nor make a
number in front of them a count of dice. -/
structure Loose (rest : List Piece) : Prop where
  keepAt? : keepAt? rest = none
  termAt? (digits : List Char) : termAt? (.number digits :: rest) = none

theorem loose_nil : Loose [] := ⟨rfl, fun _ => rfl⟩

/-- No numeral stands among marks, so they hold no dice. -/
theorem loose_marks (marks : List Char) : Loose (marks.map .mark) where
  keepAt? := by
    match marks with
    | [] | [_] | [_, _] | _ :: _ :: _ :: _ => simp [keepAt?]
  termAt? digits := by
    match marks with
    | [] | [_] | _ :: _ :: _ => simp [termAt?]

/-- A component begins with a sign. -/
theorem loose_component (c : Component) (rest : List Piece) : Loose (c.pieces ++ rest) := by
  cases c <;> exact ⟨by simp [Component.pieces, keepAt?], by simp [Component.pieces, termAt?]⟩

theorem loose_signed (cs : List Component) {rest : List Piece} (h : Loose rest) :
    Loose (cs.flatMap Component.pieces ++ rest) := by
  cases cs with
  | nil => exact h
  | cons c cs =>
      rw [List.flatMap_cons, List.append_assoc]
      exact loose_component c _

theorem beginsWithDie_component (c : Component) (rest : List Piece) :
    beginsWithDie (c.pieces ++ rest) = false := by
  cases c <;> rfl

/-! The search for dice. -/

theorem keepAt?_keepPieces (keep : Option (KeepMode × Numeral)) {rest : List Piece}
    (h : keepAt? rest = none) :
    keepAt? (Group.keepPieces keep ++ rest) = keep.map fun (mode, n) => (mode, n.digits) := by
  cases keep with
  | none => exact h
  | some rule =>
      obtain ⟨mode, n⟩ := rule
      cases mode <;> rfl

theorem withKeep_keepPieces (count : Option (List Char)) (sides : List Char) (size : Nat)
    (keep : Option (KeepMode × Numeral)) {rest : List Piece} (h : keepAt? rest = none) :
    withKeep count sides size (Group.keepPieces keep ++ rest) =
      (⟨count, sides, keep.map fun (mode, n) => (mode, n.digits)⟩,
        (Group.keepPieces keep).length + size) := by
  rw [withKeep, keepAt?_keepPieces keep h]
  cases keep with
  | none => simp [Group.keepPieces]
  | some rule => simp [Group.keepPieces, Nat.add_comm]

theorem Group.pieces_ne_nil (g : Group) : g.pieces ≠ [] := by simp [pieces]

theorem termAt?_group (g : Group) {rest : List Piece} (h : keepAt? rest = none) :
    termAt? (g.pieces ++ rest) = some (g.written, g.pieces.length) := by
  obtain ⟨count, sides, keep⟩ := g
  cases count with
  | none => exact congrArg some (withKeep_keepPieces none sides.digits 2 keep h)
  | some n => exact congrArg some (withKeep_keepPieces (some n.digits) sides.digits 3 keep h)

theorem allMatches_termAt?_group (g : Group) {rest : List Piece} (h : keepAt? rest = none) :
    allMatches termAt? (g.pieces ++ rest) = g.written :: allMatches termAt? rest :=
  allMatches_append_of_some g.pieces_ne_nil (termAt?_group g h)

theorem allMatches_termAt?_item (i : Item) {rest : List Piece} (h : Loose rest) :
    allMatches termAt? (i.pieces ++ rest) =
      i.groups.map Group.written ++ allMatches termAt? rest := by
  cases i with
  | flat size => exact allMatches_cons_of_none (h.termAt? size.digits)
  | dice group => exact allMatches_termAt?_group group h.keepAt?

theorem allMatches_termAt?_component (c : Component) {rest : List Piece} (h : Loose rest) :
    allMatches termAt? (c.pieces ++ rest) =
      c.groups.map Group.written ++ allMatches termAt? rest := by
  cases c with
  | plus item =>
      rw [Component.pieces, List.cons_append, allMatches_cons_of_none (by simp [termAt?]),
        allMatches_termAt?_item item h]
      rfl
  | minus size =>
      rw [Component.pieces, List.cons_append, allMatches_cons_of_none (by simp [termAt?])]
      exact allMatches_cons_of_none (h.termAt? size.digits)

theorem allMatches_termAt?_signed (cs : List Component) {rest : List Piece} (h : Loose rest) :
    allMatches termAt? (cs.flatMap Component.pieces ++ rest) =
      (cs.flatMap Component.groups).map Group.written ++ allMatches termAt? rest := by
  induction cs with
  | nil => rfl
  | cons c cs ih =>
      rw [List.flatMap_cons, List.append_assoc,
        allMatches_termAt?_component c (loose_signed cs h), ih, List.flatMap_cons,
        List.map_append, List.append_assoc]

theorem allMatches_termAt?_phrase (p : Phrase) {rest : List Piece} (h : Loose rest) :
    allMatches termAt? (p.pieces ++ rest) =
      p.groups.map Group.written ++ allMatches termAt? rest := by
  rw [Phrase.pieces, Phrase.groups, List.append_assoc, List.map_append, List.append_assoc]
  cases p.opening with
  | none => exact allMatches_termAt?_signed p.signed h
  | some item =>
      rw [Option.map_some, Option.getD_some,
        allMatches_termAt?_item item (loose_signed p.signed h),
        allMatches_termAt?_signed p.signed h]
      simp

/-- The search for dice passes over marks in front of a mark, whatever they are. -/
theorem allMatches_termAt?_marks_cons (marks : List Char) (c : Char) (rest : List Piece) :
    allMatches termAt? (marks.map .mark ++ .mark c :: rest) =
      allMatches termAt? (.mark c :: rest) := by
  induction marks with
  | nil => rfl
  | cons d marks ih =>
      have hnone : termAt? (.mark d :: (marks.map .mark ++ .mark c :: rest)) = none := by
        cases marks <;> simp [termAt?]
      rw [List.map_cons, List.cons_append, allMatches_cons_of_none hnone, ih]

/-- Marks of which the last one is not the letter of a die are passed over by the search
for dice. -/
theorem allMatches_termAt?_marks {marks : List Char} (h : marks.getLast? ≠ some 'd')
    (rest : List Piece) :
    allMatches termAt? (marks.map .mark ++ rest) = allMatches termAt? rest := by
  rcases List.eq_nil_or_concat marks with rfl | ⟨init, c, rfl⟩
  · rfl
  · have hc : c ≠ 'd' := by simpa using h
    rw [List.concat_eq_append, List.map_append, List.append_assoc]
    exact (allMatches_termAt?_marks_cons init c rest).trans
      (allMatches_cons_of_none (by simp [termAt?, hc]))

/-- No dice stand among marks. -/
theorem allMatches_termAt?_map_mark (marks : List Char) :
    allMatches termAt? (marks.map .mark) = [] := by
  rcases List.eq_nil_or_concat marks with rfl | ⟨init, c, rfl⟩
  · rfl
  · rw [List.concat_eq_append, List.map_append]
    exact (allMatches_termAt?_marks_cons init c []).trans
      (allMatches_cons_of_none (by simp [termAt?]))

/-! The search for signed numbers. -/

theorem modifierAt?_number (digits : List Char) (rest : List Piece) :
    modifierAt? (.number digits :: rest) = none := rfl

theorem modifierAt?_mark {c : Char} (h : c ≠ '+') (h' : c ≠ '-') (rest : List Piece) :
    modifierAt? (.mark c :: rest) = none := by
  unfold modifierAt?
  split <;> simp_all

theorem allMatches_modifierAt?_marks {marks : List Char}
    (h : ∀ c ∈ marks, c ≠ '+' ∧ c ≠ '-') (rest : List Piece) :
    allMatches modifierAt? (marks.map .mark ++ rest) = allMatches modifierAt? rest := by
  induction marks with
  | nil => rfl
  | cons c marks ih =>
      obtain ⟨hplus, hminus⟩ := h c List.mem_cons_self
      rw [List.map_cons, List.cons_append,
        allMatches_cons_of_none (modifierAt?_mark hplus hminus _),
        ih fun d hd => h d (List.mem_cons_of_mem c hd)]

theorem allMatches_modifierAt?_keepPieces (keep : Option (KeepMode × Numeral))
    (rest : List Piece) :
    allMatches modifierAt? (Group.keepPieces keep ++ rest) = allMatches modifierAt? rest := by
  cases keep with
  | none => rfl
  | some rule =>
      obtain ⟨mode, n⟩ := rule
      have hletter : mode.letter ≠ '+' ∧ mode.letter ≠ '-' := by cases mode <;> decide
      simp only [Group.keepPieces, List.cons_append, List.nil_append]
      rw [allMatches_cons_of_none (modifierAt?_mark (by decide) (by decide) _),
        allMatches_cons_of_none (modifierAt?_mark hletter.1 hletter.2 _),
        allMatches_cons_of_none (modifierAt?_number _ _)]

/-- No sign stands inside a group of dice. -/
theorem allMatches_modifierAt?_group (g : Group) (rest : List Piece) :
    allMatches modifierAt? (g.pieces ++ rest) = allMatches modifierAt? rest := by
  have hdie : allMatches modifierAt? (.mark 'd' :: .number g.sides.digits ::
      (Group.keepPieces g.keep ++ rest)) = allMatches modifierAt? rest := by
    rw [allMatches_cons_of_none (modifierAt?_mark (by decide) (by decide) _),
      allMatches_cons_of_none (modifierAt?_number _ _), allMatches_modifierAt?_keepPieces]
  cases hcount : g.count with
  | none => simpa [Group.pieces, hcount] using hdie
  | some n =>
      simp only [Group.pieces, hcount, Option.map_some, Option.toList_some, List.cons_append,
        List.nil_append]
      rw [allMatches_cons_of_none (modifierAt?_number _ _), hdie]

theorem allMatches_modifierAt?_item (i : Item) (rest : List Piece) :
    allMatches modifierAt? (i.pieces ++ rest) = allMatches modifierAt? rest := by
  cases i with
  | flat size => exact allMatches_cons_of_none (modifierAt?_number _ _)
  | dice group => exact allMatches_modifierAt?_group group rest

/-- A flat number is lost when the letter of a die follows it. -/
theorem allMatches_modifierAt?_component (c : Component) (rest : List Piece) :
    allMatches modifierAt? (c.pieces ++ rest) =
      (if beginsWithDie rest then [] else c.flats.map Flat.written) ++
        allMatches modifierAt? rest := by
  cases c with
  | plus item =>
      cases item with
      | flat size =>
          cases hdie : beginsWithDie rest with
          | true =>
              rw [Component.pieces, List.cons_append,
                allMatches_cons_of_none (by simp [Item.pieces, modifierAt?, hdie]),
                allMatches_modifierAt?_item]
              rfl
          | false =>
              exact allMatches_append_of_some (by simp [Component.pieces])
                (by simp [Component.pieces, Item.pieces, modifierAt?, hdie, Flat.written])
      | dice group =>
          have hsign : modifierAt? (.mark '+' :: (group.pieces ++ rest)) = none := by
            obtain ⟨count, sides, keep⟩ := group
            cases count <;> simp [Group.pieces, modifierAt?, beginsWithDie]
          rw [Component.pieces, List.cons_append, Item.pieces, allMatches_cons_of_none hsign,
            allMatches_modifierAt?_group]
          simp [Component.flats, Item.flats]
  | minus size =>
      cases hdie : beginsWithDie rest with
      | true =>
          rw [Component.pieces, List.cons_append,
            allMatches_cons_of_none (by simp [modifierAt?, hdie])]
          exact allMatches_cons_of_none (modifierAt?_number _ _)
      | false =>
          exact allMatches_append_of_some (by simp [Component.pieces])
            (by simp [Component.pieces, modifierAt?, hdie, Flat.written])

theorem beginsWithDie_signed (cs : List Component) {rest : List Piece}
    (h : beginsWithDie rest = false) :
    beginsWithDie (cs.flatMap Component.pieces ++ rest) = false := by
  cases cs with
  | nil => exact h
  | cons c cs =>
      rw [List.flatMap_cons, List.append_assoc]
      exact beginsWithDie_component c _

theorem allMatches_modifierAt?_signed (cs : List Component) {rest : List Piece}
    (h : beginsWithDie rest = false) :
    allMatches modifierAt? (cs.flatMap Component.pieces ++ rest) =
      (cs.flatMap Component.flats).map Flat.written ++ allMatches modifierAt? rest := by
  induction cs with
  | nil => rfl
  | cons c cs ih =>
      rw [List.flatMap_cons, List.append_assoc, allMatches_modifierAt?_component,
        beginsWithDie_signed cs h, if_neg (by simp), ih, List.flatMap_cons, List.map_append,
        List.append_assoc]

theorem allMatches_modifierAt?_phrase (p : Phrase) {rest : List Piece}
    (h : beginsWithDie rest = false) :
    allMatches modifierAt? (p.pieces ++ rest) =
      (p.signed.flatMap Component.flats).map Flat.written ++ allMatches modifierAt? rest := by
  rw [Phrase.pieces, List.append_assoc]
  cases p.opening with
  | none => exact allMatches_modifierAt?_signed p.signed h
  | some item =>
      rw [Option.map_some, Option.getD_some, allMatches_modifierAt?_item,
        allMatches_modifierAt?_signed p.signed h]

end ExpectedDamage.Dice
