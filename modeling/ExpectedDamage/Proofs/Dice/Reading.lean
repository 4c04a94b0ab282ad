import ExpectedDamage.Proofs.Dice.Search
import Mathlib.Logic.Basic
/-!
# Reading what was found

What the searches find is still in digits. A group that is not too long becomes its
`term`, a flat number its `amount`; the first group that cannot be rolled or is too long
ends the reading. `Spoiled` says that it cannot be rolled, and then the text is no
expression; otherwise a number that is too long is a fault.

`readPieces_eq_ok` is the reading of any pieces in which the searches found groups and
flat numbers that can be read.
-/

namespace ExpectedDamage.Dice

open Text

section Except

variable {ε α β γ : Type}

/-- A step that fails exactly where a condition does hands the condition on. -/
theorem ite_ok_bind {p : Prop} [Decidable p] (a : α) (e : ε) (f : α → Except ε β) :
    (if p then .ok a else .error e) >>= f = if p then f a else .error e := by
  split <;> rfl

theorem option_mapM_eq_ite {read : α → Except ε β} {write : γ → α} {value : γ → β}
    {p : γ → Prop} [DecidablePred p] {e : ε}
    (h : ∀ x, read (write x) = if p x then .ok (value x) else .error e) (o : Option γ) :
    (o.map write).mapM read = if ∀ x ∈ o, p x then .ok (o.map value) else .error e := by
  cases o with
  | none => rfl
  | some x =>
      by_cases hx : p x
      · have hall : ∀ y ∈ some x, p y := by simpa using hx
        rw [if_pos hall]
        exact congrArg (some <$> ·) ((h x).trans (if_pos hx))
      · have hall : ¬ ∀ y ∈ some x, p y := fun hall => hx (hall x rfl)
        rw [if_neg hall]
        exact congrArg (some <$> ·) ((h x).trans (if_neg hx))

end Except

/-! The numbers of a group. -/

theorem Group.short_iff (g : Group) :
    g.Short ↔ (∀ n ∈ g.count, n.Short) ∧ g.sides.Short ∧ ∀ rule ∈ g.keep, rule.2.Short := by
  obtain ⟨count, sides, keep⟩ := g
  cases count <;> cases keep <;> simp [Short, numerals]

/-- The keep rule that is written. -/
def keepRule? (rule : KeepMode × List Char) : Except ArithmeticFault KeepRule := do
  return ⟨rule.1, ← WholeText.value? rule.2⟩

theorem WrittenTerm.term?_eq (w : WrittenTerm) :
    w.term? = do
      let count ← w.count.mapM WholeText.value?
      let sides ← WholeText.value? w.sides
      return ⟨count.getD 1, sides, ← w.keep.mapM keepRule?⟩ :=
  rfl

theorem keepRule?_digits (mode : KeepMode) (n : Numeral) :
    keepRule? (mode, n.digits) =
      if n.Short then .ok ⟨mode, n.value⟩ else .error .tooLong := by
  rw [keepRule?, n.value?_digits]
  exact ite_ok_bind _ _ _

theorem Group.term?_written (g : Group) :
    g.written.term? = if g.Short then .ok g.term else .error .tooLong := by
  have hcount : g.written.count.mapM WholeText.value? =
      if ∀ n ∈ g.count, n.Short then .ok (g.count.map Numeral.value) else .error .tooLong :=
    option_mapM_eq_ite Numeral.value?_digits g.count
  have hsides : WholeText.value? g.written.sides =
      if g.sides.Short then .ok g.sides.value else .error .tooLong := g.sides.value?_digits
  have hkeep : g.written.keep.mapM keepRule? =
      if ∀ rule ∈ g.keep, rule.2.Short then .ok g.term.keep else .error .tooLong :=
    option_mapM_eq_ite (fun rule => keepRule?_digits rule.1 rule.2) g.keep
  rw [WrittenTerm.term?_eq, hcount, hsides, hkeep]
  simp only [ite_ok_bind]
  rw [← ite_and, ← ite_and]
  exact ite_congr (propext (by rw [g.short_iff, and_assoc])) (fun _ => rfl) fun _ => rfl

theorem Flat.value?_written (f : Flat) :
    f.written.value? = if f.size.Short then .ok f.amount else .error .tooLong := by
  rw [WrittenModifier.value?, written, Numeral.value?_digits]
  exact ite_ok_bind _ _ _

theorem mapM_value?_written (fs : List Flat) :
    (fs.map Flat.written).mapM WrittenModifier.value? =
      if ∀ f ∈ fs, f.size.Short then .ok (fs.map Flat.amount) else .error .tooLong := by
  induction fs with
  | nil => rfl
  | cons f fs ih =>
      have hall : (∀ x ∈ f :: fs, x.size.Short) ↔ f.size.Short ∧ ∀ x ∈ fs, x.size.Short :=
        List.forall_mem_cons
      rw [List.map_cons, List.mapM_cons, ih, f.value?_written, ite_ok_bind, ite_ok_bind,
        ← ite_and]
      exact ite_congr (propext hall.symm) (fun _ => rfl) fun _ => rfl

/-- Some group cannot be rolled, and no group up to it is too long. -/
def Spoiled : List Group → Prop
  | [] => False
  | g :: gs => g.Short ∧ (¬ g.term.Valid ∨ Spoiled gs)

instance decidableSpoiled : (gs : List Group) → Decidable (Spoiled gs)
  | [] => inferInstanceAs (Decidable False)
  | _ :: gs =>
    have := decidableSpoiled gs
    inferInstanceAs (Decidable (_ ∧ (_ ∨ _)))

theorem valid_of_not_spoiled {gs : List Group} (h : ¬ Spoiled gs)
    (hshort : ∀ g ∈ gs, g.Short) : ∀ g ∈ gs, g.Short ∧ g.term.Valid := by
  induction gs with
  | nil => simp
  | cons g gs ih =>
      obtain ⟨hg, hgs⟩ := List.forall_mem_cons.1 hshort
      have hrest : ¬ (¬ g.term.Valid ∨ Spoiled gs) := fun hor => h ⟨hg, hor⟩
      obtain ⟨hvalid, hspoiled⟩ := not_or.1 hrest
      exact List.forall_mem_cons.2 ⟨⟨hg, Decidable.not_not.1 hvalid⟩, ih hspoiled hgs⟩

theorem not_valid_of_spoiled {gs : List Group} (h : Spoiled gs) :
    ¬ ∀ g ∈ gs, g.term.Valid := by
  induction gs with
  | nil => exact h.elim
  | cons g gs ih =>
      rw [List.forall_mem_cons]
      rintro ⟨hvalid, hall⟩
      exact ih (h.2.resolve_left (not_not_intro hvalid)) hall

theorem Refusal.computed_ite {α : Type} {p : Prop} [Decidable p] (a : α)
    (fault : ArithmeticFault) :
    computed (if p then .ok a else .error fault) =
      if p then .ok a else .error (.arithmetic fault) := by
  split <;> rfl

theorem validTerms_written_cons (g : Group) (gs : List Group) :
    validTerms ((g :: gs).map Group.written) =
      if g.Short then
        if g.term.Valid then (g.term :: ·) <$> validTerms (gs.map Group.written)
        else .error (.term g.written)
      else .error (.arithmetic .tooLong) := by
  have hfirst : (do
      let t ← Refusal.computed g.written.term?
      if t.Valid then .ok t else .error (.term g.written)) =
        if g.Short then if g.term.Valid then .ok g.term else .error (Refusal.term g.written)
        else .error (.arithmetic .tooLong) := by
    rw [g.term?_written, Refusal.computed_ite]
    exact ite_ok_bind _ _ _
  rw [validTerms, List.map_cons, List.mapM_cons, hfirst]
  by_cases hshort : g.Short
  · rw [if_pos hshort, if_pos hshort]
    exact ite_ok_bind _ _ _
  · rw [if_neg hshort, if_neg hshort]
    rfl

theorem validTerms_written_of_valid {gs : List Group} (h : ∀ g ∈ gs, g.Short ∧ g.term.Valid) :
    validTerms (gs.map Group.written) = .ok (gs.map Group.term) := by
  induction gs with
  | nil => rfl
  | cons g gs ih =>
      obtain ⟨hshort, hvalid⟩ := h g List.mem_cons_self
      rw [validTerms_written_cons, if_pos hshort, if_pos hvalid,
        ih fun x hx => h x (List.mem_cons_of_mem g hx)]
      rfl

theorem validTerms_written_of_spoiled {gs : List Group} (h : Spoiled gs) :
    ∃ w, validTerms (gs.map Group.written) = .error (.term w) := by
  induction gs with
  | nil => exact h.elim
  | cons g gs ih =>
      obtain ⟨hshort, hspoiled⟩ := h
      rw [validTerms_written_cons, if_pos hshort]
      by_cases hvalid : g.term.Valid
      · obtain ⟨w, hw⟩ := ih (hspoiled.resolve_left (not_not_intro hvalid))
        rw [if_pos hvalid, hw]
        exact ⟨w, rfl⟩
      · rw [if_neg hvalid]
        exact ⟨g.written, rfl⟩

theorem validTerms_written_of_long {gs : List Group} (h : ¬ Spoiled gs)
    (hlong : ¬ ∀ g ∈ gs, g.Short) :
    validTerms (gs.map Group.written) = .error (.arithmetic .tooLong) := by
  induction gs with
  | nil => exact absurd (by simp) hlong
  | cons g gs ih =>
      rw [validTerms_written_cons]
      by_cases hshort : g.Short
      · have hrest : ¬ (¬ g.term.Valid ∨ Spoiled gs) := fun hor => h ⟨hshort, hor⟩
        obtain ⟨hvalid, hspoiled⟩ := not_or.1 hrest
        rw [if_pos hshort, if_pos (Decidable.not_not.1 hvalid),
          ih hspoiled fun hall => hlong (List.forall_mem_cons.2 ⟨hshort, hall⟩)]
        rfl
      · rw [if_neg hshort]

theorem readPieces_of_validTerms {pieces : List Piece} {terms : List Term} {amounts : List Int}
    (hterms : validTerms (allMatches termAt? pieces) = .ok terms)
    (hamounts : (modifiersOf pieces).mapM WrittenModifier.value? = .ok amounts)
    (hne : terms ≠ [] ∨ wholeSum amounts ≠ 0) :
    readPieces pieces = .ok ⟨terms, wholeSum amounts⟩ := by
  unfold readPieces
  rw [hterms, hamounts]
  exact if_pos (by simpa using hne)

/-- A row of pieces is read as the groups and flat numbers that were found in it. -/
theorem readPieces_eq_ok {pieces : List Piece} {gs : List Group} {fs : List Flat}
    (hgroups : allMatches termAt? pieces = gs.map Group.written)
    (hflats : modifiersOf pieces = fs.map Flat.written)
    (hvalid : ∀ g ∈ gs, g.Short ∧ g.term.Valid) (hshort : ∀ f ∈ fs, f.size.Short)
    (hne : gs ≠ [] ∨ wholeSum (fs.map Flat.amount) ≠ 0) :
    readPieces pieces = .ok ⟨gs.map Group.term, wholeSum (fs.map Flat.amount)⟩ := by
  apply readPieces_of_validTerms
  · rw [hgroups, validTerms_written_of_valid hvalid]
  · rw [hflats, mapM_value?_written, if_pos hshort]
  · simpa using hne

theorem readPieces_of_error {pieces : List Piece} {refusal : Refusal}
    (h : validTerms (allMatches termAt? pieces) = .error refusal) :
    readPieces pieces = .error refusal := by
  unfold readPieces
  rw [h]
  rfl

theorem readPieces_of_flat_error {pieces : List Piece} {terms : List Term}
    {fault : ArithmeticFault}
    (hterms : validTerms (allMatches termAt? pieces) = .ok terms)
    (h : (modifiersOf pieces).mapM WrittenModifier.value? = .error fault) :
    readPieces pieces = .error (.arithmetic fault) := by
  unfold readPieces
  rw [hterms, h]
  rfl

/-- What is read from pieces that are not a single number. -/
theorem readPieces_of_ne_number {pieces : List Piece}
    (h : ∀ digits, pieces ≠ [.number digits]) :
    readPieces pieces = (do
      let terms ← validTerms (allMatches termAt? pieces)
      let modifier :=
        wholeSum (← Refusal.computed ((modifiersOf pieces).mapM WrittenModifier.value?))
      if terms ≠ [] || modifier ≠ 0 then .ok ⟨terms, modifier⟩ else .error .nothing) := by
  match pieces with
  | [] | .mark _ :: _ | .number _ :: _ :: _ => rfl
  | [.number digits] => exact absurd rfl (h digits)

/-- Without dice and with a sum of zero only a single number is left to be read. -/
theorem readPieces_of_zero {pieces : List Piece} {amounts : List Int}
    (hterms : validTerms (allMatches termAt? pieces) = .ok [])
    (hamounts : (modifiersOf pieces).mapM WrittenModifier.value? = .ok amounts)
    (hzero : wholeSum amounts = 0) (hne : ∀ digits, pieces ≠ [.number digits]) :
    readPieces pieces = .error .nothing := by
  rw [readPieces_of_ne_number hne, hterms, hamounts]
  exact if_neg (by simpa using hzero)

theorem readPieces_number (n : Numeral) :
    readPieces [.number n.digits] =
      if n.Short then if n.value = 0 then .error .nothing else .ok ⟨[], n.value⟩
      else .error (.arithmetic .tooLong) := by
  have hread : readPieces [.number n.digits] = (do
      let flat ← Refusal.computed (WholeText.value? n.digits)
      if flat = 0 then .error .nothing else .ok ⟨[], flat⟩) := rfl
  rw [hread, n.value?_digits, Refusal.computed_ite]
  exact ite_ok_bind _ _ _

/-! From a text to its pieces. -/

/-- What the parser answers: a refused text has no expression, unless a number of it cannot
be read. -/
def Refusal.answer : Except Refusal Expression → Except ArithmeticFault (Option Expression)
  | .ok e => .ok (some e)
  | .error (.arithmetic fault) => .error fault
  | .error _ => .ok none

theorem Refusal.answer_eq_some_iff {result : Except Refusal Expression} {e : Expression} :
    Refusal.answer result = .ok (some e) ↔ result = .ok e := by
  unfold Refusal.answer
  split <;> simp

theorem Expression.parse?_eq_answer (text : String) :
    Expression.parse? text = Refusal.answer (read text.toList) := by
  unfold Expression.parse? Refusal.answer
  split <;> simp_all

theorem parse?_of_spelling {text : String} {plain : List Char}
    (h : Spelling text.toList plain) (hplain : ∀ c ∈ plain, IsPlain c) (hne : plain ≠ []) :
    Expression.parse? text = Refusal.answer (readPieces (Piece.ofText plain)) := by
  rw [Expression.parse?_eq_answer, read, not_all_isBlank_of_spelling h hplain hne, normalize,
    visible_lower_of_spelling h hplain]
  rfl

end ExpectedDamage.Dice
