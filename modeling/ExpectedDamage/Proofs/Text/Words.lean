import ExpectedDamage.Proofs.Text.Spelling
import ExpectedDamage.Text.Word
/-!
# The words of a text

Words end at a gap, which is a run of characters that are part of none: the words of a text are
those before a gap and those behind it (`words_append_gap`). Blanks are such characters
(`isWordCharacter_of_isBlank`).
-/

namespace ExpectedDamage.Text

/-- No blank character is part of a word. -/
theorem isWordCharacter_of_isBlank {c : Char} (h : isBlank c = true) :
    isWordCharacter c = false :=
  forall_blank (P := fun c => isWordCharacter c = false) (by decide +kernel) (by decide +kernel) h

/-- At least one character, none of which is part of a word. -/
def IsGap (gap : List Char) : Prop := gap ≠ [] ∧ ∀ c ∈ gap, isWordCharacter c = false

theorem isGap_cons {c : Char} {gap : List Char} (hc : isWordCharacter c = false)
    (hgap : ∀ d ∈ gap, isBlank d = true) : IsGap (c :: gap) :=
  ⟨List.cons_ne_nil c gap,
    List.forall_mem_cons.2 ⟨hc, fun d hd => isWordCharacter_of_isBlank (hgap d hd)⟩⟩

theorem isGap_of_isBlank {gap : List Char} (hne : gap ≠ [])
    (hgap : ∀ c ∈ gap, isBlank c = true) : IsGap gap :=
  ⟨hne, fun c hc => isWordCharacter_of_isBlank (hgap c hc)⟩

theorem wordsFrom_append {word : List Char} (h : ∀ c ∈ word, isWordCharacter c = true)
    (opened text : List Char) :
    wordsFrom opened (word ++ text) = wordsFrom (opened ++ word) text := by
  induction word generalizing opened with
  | nil => rw [List.nil_append, List.append_nil]
  | cons c word ih =>
      obtain ⟨hc, hword⟩ := List.forall_mem_cons.1 h
      rw [List.cons_append, wordsFrom, if_pos hc, ih hword, List.append_assoc,
        List.singleton_append]

theorem words_of_forall {word : List Char} (hne : word ≠ [])
    (h : ∀ c ∈ word, isWordCharacter c = true) : words word = [word] := by
  have hwords := wordsFrom_append h [] []
  rw [List.append_nil] at hwords
  rw [words, hwords, wordsFrom, List.nil_append, if_neg (by simpa using hne)]

theorem wordsFrom_append_cons {c : Char} (hc : isWordCharacter c = false)
    (opened text rest : List Char) :
    wordsFrom opened (text ++ c :: rest) = wordsFrom opened text ++ words rest := by
  have hc' : ¬ isWordCharacter c = true := by simp [hc]
  induction text generalizing opened with
  | nil =>
      rw [List.nil_append, wordsFrom, wordsFrom, if_neg hc']
      split <;> rfl
  | cons d text ih =>
      rw [List.cons_append, wordsFrom, wordsFrom]
      split
      · exact ih _
      · split
        · exact ih []
        · rw [ih [], List.cons_append]

theorem words_append_cons {c : Char} (hc : isWordCharacter c = false) (text rest : List Char) :
    words (text ++ c :: rest) = words text ++ words rest :=
  wordsFrom_append_cons hc [] text rest

theorem words_append_of_forall {gap : List Char} (h : ∀ c ∈ gap, isWordCharacter c = false)
    (rest : List Char) : words (gap ++ rest) = words rest := by
  induction gap with
  | nil => rfl
  | cons c gap ih =>
      obtain ⟨hc, hgap⟩ := List.forall_mem_cons.1 h
      have hhead := words_append_cons hc [] (gap ++ rest)
      rw [List.cons_append]
      exact hhead.trans (ih hgap)

/-- Words end at a gap. -/
theorem words_append_gap {gap : List Char} (h : IsGap gap) (text rest : List Char) :
    words (text ++ (gap ++ rest)) = words text ++ words rest := by
  obtain ⟨hne, hgap⟩ := h
  obtain ⟨c, gap, rfl⟩ := List.exists_cons_of_ne_nil hne
  obtain ⟨hc, hgap⟩ := List.forall_mem_cons.1 hgap
  rw [List.cons_append, words_append_cons hc, words_append_of_forall hgap]

end ExpectedDamage.Text
