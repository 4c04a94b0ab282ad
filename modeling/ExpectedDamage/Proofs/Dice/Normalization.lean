import ExpectedDamage.Dice.Statistics
import ExpectedDamage.Proofs.Dice.Canonical
import ExpectedDamage.Proofs.Dice.Roll
import ExpectedDamage.Proofs.Dice.Validity
/-!
# The canonical text of any text

A text that is read as an expression, whatever else it holds, can be put into its canonical
form. The numbers of the terms are read from digits, so they can be written as well; only the
modifier is a sum, and may have a digit too many (`fits_numbers_iff_of_parse?`). If it has not,
the canonical text is read as the very expression and is its own canonical text
(`canonical?_fixed_of_parse?`).
-/

namespace ExpectedDamage.Dice

open Text

theorem fits_of_term? {w : WrittenTerm} {t : Term} (h : w.term? = .ok t) :
    ∀ n ∈ t.numbers, WholeText.Fits n := by
  intro n hn
  obtain rfl | ⟨digits, k, hread, rfl⟩ := read_of_mem_numbers h n hn
  · decide
  · exact WholeText.fits_of_value? hread

namespace Expression

/-- Some roll lies between the bounds, so they are in order. -/
theorem minimum_le_maximum {e : Expression} (h : e.Valid) : e.minimum ≤ e.maximum := by
  obtain ⟨hlow, hhigh⟩ := total_bounds h (die_bounds h fun _ => 0) 0
  rw [minimum_eq]
  exact hlow.trans hhigh

/-- Of the numbers that were read, only the modifier may be too long. -/
theorem fits_numbers_iff_of_parse? {text : String} {e : Expression}
    (h : parse? text = .ok (some e)) :
    (∀ n ∈ e.numbers, WholeText.Fits n) ↔ WholeText.Fits e.modifier := by
  have hterms : ∀ t ∈ e.terms, ∀ n ∈ t.numbers, WholeText.Fits n := by
    intro t ht
    obtain ⟨_, -, hread, -⟩ := exists_written_of_mem_validTerms
      (terms_of_readPieces (readPieces_of_parse? h)).1 ht
    exact fits_of_term? hread
  simp only [numbers, List.forall_mem_append, List.forall_mem_flatMap, List.forall_mem_singleton]
  exact and_iff_right hterms

/-- The canonical text of what a text says; of a text that says nothing, the empty one. -/
def canonical? (text : String) : Except ArithmeticFault String := do
  match ← parse? text with
  | none => return ""
  | some e => e.text?

theorem canonical?_eq {text : String} {e : Expression} (h : parse? text = .ok (some e)) :
    canonical? text = e.text? := by
  rw [canonical?, h]
  rfl

/-- Whatever a text holds, an expression that is read from it can be rolled, is not nothing and
has its bounds in order. Its canonical text, which exists unless the modifier is too long, is
read as the same expression, with the same bounds, and is its own canonical text. -/
theorem canonical?_fixed_of_parse? {text : String} {e : Expression}
    (h : parse? text = .ok (some e)) :
    e.Valid ∧ e.minimum ≤ e.maximum ∧
      if WholeText.Fits e.modifier then
        ∃ c, canonical? text = .ok c ∧ parse? c = .ok (some e) ∧ canonical? c = .ok c
      else canonical? text = .error .tooLong := by
  have hvalid := valid_of_parse? h
  have hnumbers := fits_numbers_iff_of_parse? h
  refine ⟨hvalid, minimum_le_maximum hvalid, ?_⟩
  rw [canonical?_eq h]
  split
  · next hfits =>
      have hfits := hnumbers.2 hfits
      have hwritten : e.text? = .ok e.text := if_pos hfits
      have hread : parse? e.text = .ok (some e) := (parse?_text hvalid).trans (if_pos hfits)
      exact ⟨e.text, hwritten, hread, (canonical?_eq hread).trans hwritten⟩
  · next hlong => exact if_neg fun hfits => hlong (hnumbers.1 hfits)

/-- Dice and numbers among other characters, and the number in front of the first sign. -/
theorem canonical?_fixed_of_parse?_among_marks :
    let text := "7 - xx2D6kl1 (+12-8?) // d8k"
    let e : Expression := ⟨[⟨2, 6, some ⟨.lowest, 1⟩⟩, ⟨1, 8, none⟩], 11⟩
    parse? text = .ok (some e) ∧ WholeText.Fits e.modifier ∧ e.Valid ∧ e.minimum ≤ e.maximum ∧
      ∃ c, canonical? text = .ok c ∧ parse? c = .ok (some e) ∧ canonical? c = .ok c := by
  intro text e
  have hread : parse? text = .ok (some e) := by decide +kernel
  have hfits : WholeText.Fits e.modifier := by decide
  obtain ⟨hvalid, hbounds, hcanonical⟩ := canonical?_fixed_of_parse? hread
  rw [if_pos hfits] at hcanonical
  exact ⟨hread, hfits, hvalid, hbounds, hcanonical⟩

/-- Two flat numbers that can be read, and whose sum has a digit too many to be written. -/
theorem canonical?_two_long_numbers :
    let half : Numeral := .ofNat (5 * 10 ^ 4299)
    let p : Phrase := ⟨some (.flat half), [.plus (.flat half)], nofun⟩
    let e : Expression := ⟨[], (10 ^ WholeText.digitLimit : Nat)⟩
    parse? (String.ofList p.chars) = .ok (some e) ∧
      canonical? (String.ofList p.chars) = .error .tooLong := by
  intro half p e
  have hsum : (5 * 10 ^ 4299 : Nat) + 5 * 10 ^ 4299 = 10 ^ WholeText.digitLimit := by
    have hlimit : WholeText.digitLimit = 4299 + 1 := rfl
    rw [hlimit, Nat.pow_succ]
    omega
  have hten : (0 : Nat) < 10 := by decide
  have hpos : 0 < 5 * 10 ^ 4299 := Nat.mul_pos (by decide) (pow_pos hten 4299)
  have hshort : half.Short := by
    rw [Numeral.short_ofNat_iff, ← hsum]
    exact Nat.lt_add_of_pos_left hpos
  have hvalue : half.value = 5 * 10 ^ 4299 := Numeral.value_ofNat _
  have hlong : ¬ WholeText.Fits e.modifier := by
    rw [WholeText.fits_natCast_iff]
    exact Nat.lt_irrefl _
  have hexpression : p.expression = e := by
    have hmodifier : p.expression.modifier = (half.value + (half.value + 0) : Int) := rfl
    rw [Int.add_zero, ← Int.natCast_add, hvalue, hsum] at hmodifier
    exact congrArg (Expression.mk []) hmodifier
  have hreadable : p.Readable :=
    .inr ⟨nofun, List.forall_mem_cons.2 ⟨hshort, List.forall_mem_singleton.2 hshort⟩⟩
  have hvalid : e.Valid := by
    have hne : 10 ^ WholeText.digitLimit ≠ 0 := (Nat.pow_pos hten).ne'
    exact ⟨nofun, .inr (Int.natCast_ne_zero.2 hne)⟩
  have hread : parse? (String.ofList p.chars) = .ok (some e) := by
    rw [p.parse?_ofList_chars, if_pos hreadable, hexpression, if_pos hvalid]
  have hnumbers : ¬ ∀ n ∈ e.numbers, WholeText.Fits n := fun hfits =>
    hlong ((fits_numbers_iff_of_parse? hread).1 hfits)
  exact ⟨hread, (canonical?_eq hread).trans (if_neg hnumbers)⟩

end Expression

end ExpectedDamage.Dice
