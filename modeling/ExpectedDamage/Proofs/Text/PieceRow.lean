import ExpectedDamage.Proofs.Text.Numeral
/-!
# Rows of pieces

Where a text is put together from numerals and other characters, its pieces can be read
off one by one: `ofText_append_numeral` takes a numeral that the rest of the text does not
continue, `ofText_append_marks` takes characters that are no digits.

The matches of a recogniser are found the same way: a place where it finds nothing is
passed over (`allMatches_cons_of_none`), and behind a match the search begins anew
(`allMatches_append_of_some`). An item that no match looks at may be any other
(`matchesFrom_congr`).
-/

namespace ExpectedDamage.Text

/-- A number in front of the text ends there: the text does not begin with a digit. -/
def EndsNumber (text : List Char) : Prop := ∀ c ∈ text.head?, isDigit c = false

theorem endsNumber_nil : EndsNumber [] := by simp [EndsNumber]

theorem endsNumber_cons {c : Char} {text : List Char} (h : isDigit c = false) :
    EndsNumber (c :: text) := by simpa [EndsNumber] using h

namespace Piece

theorem ofText_cons_mark {c : Char} {text : List Char} (h : isDigit c = false) :
    ofText (c :: text) = .mark c :: ofText text := by
  simp [ofText, h]

/-- Characters that are no digits are marks, whatever follows them. -/
theorem ofText_append_marks {marks text : List Char} (h : ∀ c ∈ marks, isDigit c = false) :
    ofText (marks ++ text) = marks.map .mark ++ ofText text := by
  induction marks with
  | nil => rfl
  | cons c marks ih =>
      rw [List.cons_append, ofText_cons_mark (h c List.mem_cons_self),
        ih fun d hd => h d (List.mem_cons_of_mem c hd), List.map_cons, List.cons_append]

theorem ofText_ne_number_cons {text : List Char} (h : EndsNumber text) (digits : List Char)
    (rest : List Piece) : ofText text ≠ .number digits :: rest := by
  cases text with
  | nil => simp [ofText]
  | cons c text =>
      rw [ofText_cons_mark (h c rfl)]
      simp

/-- A nonempty run of digits is one number if the text behind it does not go on with a
digit. -/
theorem ofText_append_digits {digits text : List Char} (hne : digits ≠ [])
    (hdigits : ∀ c ∈ digits, isDigit c = true) (h : EndsNumber text) :
    ofText (digits ++ text) = .number digits :: ofText text := by
  induction digits with
  | nil => exact absurd rfl hne
  | cons c digits ih =>
      have hc : isDigit c = true := hdigits c List.mem_cons_self
      cases digits with
      | nil =>
          have hother := ofText_ne_number_cons h
          rw [List.singleton_append, ofText, if_pos hc]
          split
          · next ds rest heq => exact absurd heq (hother ds rest)
          · rfl
      | cons d digits =>
          have ih := ih (by simp) fun x hx => hdigits x (List.mem_cons_of_mem c hx)
          rw [List.cons_append, ofText, if_pos hc, ih]

theorem ofText_append_numeral (n : Numeral) {text : List Char} (h : EndsNumber text) :
    ofText (n.digits ++ text) = .number n.digits :: ofText text :=
  ofText_append_digits n.ne_nil (fun c hc => isDigit_of_isDigit (n.isDigit_of_mem c hc)) h

end Piece

section Matches

variable {α β : Type} {recognise : List α → Option (β × Nat)}

@[simp] theorem allMatches_nil : allMatches recognise [] = [] := rfl

theorem allMatches_cons_of_none {x : α} {xs : List α} (h : recognise (x :: xs) = none) :
    allMatches recognise (x :: xs) = allMatches recognise xs := by
  simp [allMatches, matchesFrom, h]

/-- Items that are still part of a match are passed over. -/
theorem matchesFrom_length_append (part rest : List α) :
    matchesFrom recognise part.length (part ++ rest) = allMatches recognise rest := by
  induction part with
  | nil => rfl
  | cons x part ih => rw [List.cons_append, List.length_cons, matchesFrom, ih]

/-- Behind a match that takes some items, the search begins anew. -/
theorem allMatches_append_of_some {part rest : List α} {found : β} (hne : part ≠ [])
    (h : recognise (part ++ rest) = some (found, part.length)) :
    allMatches recognise (part ++ rest) = found :: allMatches recognise rest := by
  cases part with
  | nil => exact absurd rfl hne
  | cons x part =>
      rw [List.cons_append] at h ⊢
      rw [allMatches, matchesFrom, h]
      exact congrArg (found :: ·) (matchesFrom_length_append part rest)

/-- What a search finds does not depend on an item that no match looks at. -/
theorem matchesFrom_congr {x y : α} {rest : List α}
    (h : ∀ pre, recognise (pre ++ x :: rest) = recognise (pre ++ y :: rest))
    (skipped : Nat) (pre : List α) :
    matchesFrom recognise skipped (pre ++ x :: rest) =
      matchesFrom recognise skipped (pre ++ y :: rest) := by
  induction pre generalizing skipped with
  | nil =>
      have hnil : recognise (x :: rest) = recognise (y :: rest) := h []
      cases skipped <;> simp [matchesFrom, hnil]
  | cons a pre ih =>
      have hcons : recognise (a :: (pre ++ x :: rest)) = recognise (a :: (pre ++ y :: rest)) :=
        h (a :: pre)
      simp only [List.cons_append, matchesFrom, hcons, ih]

end Matches

end ExpectedDamage.Text
