import ExpectedDamage.Dice.Printer
import ExpectedDamage.Proofs.Dice.Reading
import ExpectedDamage.Proofs.Number.Success
/-!
# What the parser answers can be rolled

Whatever a text holds besides, an expression that is read from it has only terms that can
be rolled, and is not nothing (`valid_of_parse?`). Its terms are those that the search for dice
found (`terms_of_readPieces`), and their numbers are read from digits (`read_of_mem_numbers`).
-/

namespace ExpectedDamage.Dice

open Text

/-- A number of a term that was read is the count that stands for a missing one, or is read
from some digits. -/
theorem read_of_mem_numbers {w : WrittenTerm} {t : Term} (h : w.term? = .ok t) :
    ∀ n ∈ t.numbers, n = 1 ∨ ∃ (digits : List Char) (k : Nat),
      WholeText.value? digits = .ok k ∧ n = k := by
  rw [WrittenTerm.term?_eq] at h
  obtain ⟨count, hcount, h⟩ := bind_eq_ok_iff.1 h
  obtain ⟨sides, hsides, h⟩ := bind_eq_ok_iff.1 h
  obtain ⟨keep, hkeep, h⟩ := bind_eq_ok_iff.1 h
  obtain rfl := Except.ok.inj h
  intro n hn
  rcases List.mem_cons.1 hn with rfl | hn
  · cases count with
    | none => exact .inl rfl
    | some k =>
        obtain ⟨digits, -, hread⟩ := exists_of_mem_of_option_mapM_eq_ok hcount rfl
        exact .inr ⟨digits, k, hread, rfl⟩
  rcases List.mem_cons.1 hn with rfl | hn
  · exact .inr ⟨w.sides, sides, hsides, rfl⟩
  · obtain ⟨rule, hrule, rfl⟩ := List.mem_map.1 hn
    obtain ⟨written, -, hread⟩ :=
      exists_of_mem_of_option_mapM_eq_ok hkeep (Option.mem_toList.1 hrule)
    obtain ⟨k, hk, hread⟩ := bind_eq_ok_iff.1 hread
    obtain rfl := Except.ok.inj hread
    exact .inr ⟨written.2, k, hk, rfl⟩

theorem Refusal.computed_eq_ok_iff {α : Type} {x : Except ArithmeticFault α} {a : α} :
    computed x = .ok a ↔ x = .ok a := by
  cases x with
  | ok b => simp [computed]
  | error fault => simp [computed]

/-- Each of the terms that were read was written, and can be rolled. -/
theorem exists_written_of_mem_validTerms {written : List WrittenTerm} {terms : List Term}
    (h : validTerms written = .ok terms) {t : Term} (ht : t ∈ terms) :
    ∃ w ∈ written, w.term? = .ok t ∧ t.Valid := by
  obtain ⟨w, hw, hread⟩ := exists_of_mem_of_mapM_eq_ok h ht
  obtain ⟨x, hx, hread⟩ := bind_eq_ok_iff.1 hread
  split at hread
  · next hvalid =>
      obtain rfl := Except.ok.inj hread
      exact ⟨w, hw, Refusal.computed_eq_ok_iff.1 hx, hvalid⟩
  · exact nomatch hread

/-- The terms of what is read are those that the search for dice found, also where they are
none and only a single number is left. -/
theorem terms_of_readPieces {pieces : List Piece} {e : Expression}
    (h : readPieces pieces = .ok e) :
    validTerms (allMatches termAt? pieces) = .ok e.terms ∧ (e.terms ≠ [] ∨ e.modifier ≠ 0) := by
  obtain ⟨terms, hterms, h⟩ := bind_eq_ok_iff.1 h
  obtain ⟨amounts, -, h⟩ := bind_eq_ok_iff.1 h
  by_cases hne : (terms ≠ [] || wholeSum amounts ≠ 0) = true
  · obtain rfl := Except.ok.inj ((if_pos hne).symm.trans h)
    exact ⟨hterms, by simpa using hne⟩
  · have h := (if_neg hne).symm.trans h
    have hnil : terms = [] := by
      simp only [Bool.or_eq_true, decide_eq_true_eq, not_or, Decidable.not_not] at hne
      exact hne.1
    split at h
    · obtain ⟨flat, -, h⟩ := bind_eq_ok_iff.1 h
      split at h
      · exact nomatch h
      · next hflat =>
          obtain rfl := Except.ok.inj h
          exact ⟨hnil ▸ hterms, Or.inr (Int.natCast_ne_zero.2 hflat)⟩
    · exact nomatch h

theorem readPieces_of_parse? {text : String} {e : Expression}
    (h : Expression.parse? text = .ok (some e)) :
    readPieces (Piece.ofText (normalize text.toList)) = .ok e := by
  rw [Expression.parse?_eq_answer, Refusal.answer_eq_some_iff, read] at h
  split at h
  · exact absurd h error_ne_ok
  · exact h

theorem valid_of_parse? {text : String} {e : Expression}
    (h : Expression.parse? text = .ok (some e)) : e.Valid := by
  obtain ⟨hterms, hne⟩ := terms_of_readPieces (readPieces_of_parse? h)
  refine ⟨fun t ht => ?_, hne⟩
  obtain ⟨_, -, -, hvalid⟩ := exists_written_of_mem_validTerms hterms ht
  exact hvalid

end ExpectedDamage.Dice
