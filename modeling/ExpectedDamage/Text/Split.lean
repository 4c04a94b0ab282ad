/-!
# Texts between separators

A text is cut at every separator. There is one part more than there are separators
(`length_partsBetween`), so parts may be empty; joined again they give the text
(`intercalate_partsBetween`).
-/

namespace ExpectedDamage.Text

def partsBetween (separator : Char) : List Char → List (List Char)
  | [] => [[]]
  | c :: cs =>
    if c = separator then [] :: partsBetween separator cs
    else
      match partsBetween separator cs with
      | part :: others => (c :: part) :: others
      | [] => [[c]]

theorem partsBetween_ne_nil (separator : Char) (text : List Char) :
    partsBetween separator text ≠ [] := by
  induction text with
  | nil => simp [partsBetween]
  | cons c cs ih =>
    rw [partsBetween]
    split
    · simp
    · split <;> simp

/-- There is one part more than there are separators. -/
theorem length_partsBetween (separator : Char) (text : List Char) :
    (partsBetween separator text).length = text.count separator + 1 := by
  induction text with
  | nil => rfl
  | cons c cs ih =>
    by_cases h : c = separator
    · simp [partsBetween, h, ih]
    · cases hp : partsBetween separator cs with
      | nil => exact absurd hp (partsBetween_ne_nil separator cs)
      | cons part others =>
        rw [hp] at ih
        simpa [partsBetween, h, hp] using ih

/-- The parts joined by the separator are the text. -/
theorem intercalate_partsBetween (separator : Char) (text : List Char) :
    [separator].intercalate (partsBetween separator text) = text := by
  induction text with
  | nil => rfl
  | cons c cs ih =>
    cases hp : partsBetween separator cs with
    | nil => exact absurd hp (partsBetween_ne_nil separator cs)
    | cons part others =>
      rw [hp] at ih
      by_cases h : c = separator <;> cases others <;>
        simp_all [partsBetween, List.intercalate, List.intersperse]

end ExpectedDamage.Text
