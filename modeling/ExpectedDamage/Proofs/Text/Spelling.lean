import ExpectedDamage.Proofs.Text.Numeral
import ExpectedDamage.Text.Blank
import ExpectedDamage.Text.Lowercase
/-!
# Spellings of a text

A text in small ASCII letters, digits and signs can be spelled with capitals and with
blanks anywhere in it. `Spelling text plain` says that `text` is `plain` spelled like that,
and `visible_lower_of_spelling` that dropping the blanks of the text in lower case undoes
it. What stands between two characters does not matter for the lower case of ASCII, so
the context that `lowerFrom` carries along never decides anything here.
-/

namespace ExpectedDamage.Text

/-- The text is the plain one, in which blanks were put in and letters made capital. -/
inductive Spelling : List Char → List Char → Prop
  | nil : Spelling [] []
  | blank {c : Char} {text plain : List Char} (h : isBlank c = true) :
      Spelling text plain → Spelling (c :: text) plain
  | same {c : Char} {text plain : List Char} :
      Spelling text plain → Spelling (c :: text) (c :: plain)
  | capital {c : Char} {text plain : List Char} :
      Spelling text plain → Spelling (c.toUpper :: text) (c :: plain)

namespace Spelling

theorem refl (plain : List Char) : Spelling plain plain := by
  induction plain with
  | nil => exact nil
  | cons c plain ih => exact same ih

theorem append {text plain text' plain' : List Char} (h : Spelling text plain)
    (h' : Spelling text' plain') : Spelling (text ++ text') (plain ++ plain') := by
  induction h with
  | nil => exact h'
  | blank hc _ ih => exact blank hc ih
  | same _ ih => exact same ih
  | capital _ ih => exact capital ih

end Spelling

/-- A visible ASCII character that is no capital letter. -/
def IsPlain (c : Char) : Prop := c.toNat < 128 ∧ c.isUpper = false ∧ isBlank c = false

instance (c : Char) : Decidable (IsPlain c) := inferInstanceAs (Decidable (_ ∧ _ ∧ _))

/-- What holds of the characters with the first 128 codes holds of every ASCII character. -/
theorem forall_ascii {P : Char → Prop} (h : ∀ n < 128, P (Char.ofNat n)) {c : Char}
    (hc : c.toNat < 128) : P c := by
  have hn := h c.toNat hc
  rwa [Char.ofNat_toNat] at hn

theorem toLower_of_isPlain {c : Char} (h : IsPlain c) : c.toLower = c :=
  forall_ascii (P := fun c => IsPlain c → c.toLower = c) (by decide +kernel) h.1 h

theorem toLower_toUpper_of_isPlain {c : Char} (h : IsPlain c) :
    c.toUpper.toNat < 128 ∧ c.toUpper.toLower = c :=
  forall_ascii (P := fun c => IsPlain c → c.toUpper.toNat < 128 ∧ c.toUpper.toLower = c)
    (by decide +kernel) h.1 h

theorem isPlain_of_isDigit {c : Char} (h : c.isDigit = true) : IsPlain c :=
  forall_ascii (P := fun c => c.isDigit = true → IsPlain c) (by decide +kernel)
    (toNat_lt_of_isDigit h) h

/-- The blank characters beyond ASCII, one by one. -/
def blankCodes : List Nat := blankRanges.flatMap fun r => List.range' r.1 (r.2 - r.1 + 1)

theorem mem_blankCodes {c : Char} (h : isBlank c = true) (hc : ¬ c.toNat < 128) :
    c.toNat ∈ blankCodes := by
  rw [isBlank, if_neg hc, List.any_eq_true] at h
  obtain ⟨r, hr, hcr⟩ := h
  rw [Bool.and_eq_true, decide_eq_true_eq, decide_eq_true_eq] at hcr
  rw [blankCodes, List.mem_flatMap]
  exact ⟨r, hr, by rw [List.mem_range'_1]; omega⟩

/-- What holds of the blank characters of ASCII and of those beyond it holds of every one. -/
theorem forall_blank {P : Char → Prop}
    (hascii : ∀ n < 128, isBlank (Char.ofNat n) = true → P (Char.ofNat n))
    (hcodes : ∀ n ∈ blankCodes, P (Char.ofNat n)) {c : Char} (h : isBlank c = true) : P c := by
  by_cases hc : c.toNat < 128
  · exact forall_ascii (P := fun c => isBlank c = true → P c) hascii hc h
  · have hn := hcodes c.toNat (mem_blankCodes h hc)
    rwa [Char.ofNat_toNat] at hn

/-- No blank character has another lower case. -/
theorem lowerChar_of_isBlank {c : Char} (h : isBlank c = true) : lowerChar c = c :=
  forall_blank (P := fun c => lowerChar c = c) (by decide +kernel) (by decide +kernel) h

/-- No blank character is a digit. -/
theorem isDigit_of_isBlank {c : Char} (h : isBlank c = true) : isDigit c = false :=
  forall_blank (P := fun c => isDigit c = false) (by decide +kernel) (by decide +kernel) h

/-- Apart from two characters, the lower case goes character by character. -/
theorem lowerFrom_cons {c : Char} (h : c ≠ '\u0130') (h' : c ≠ '\u03A3') (before : Bool)
    (text : List Char) :
    lowerFrom before (c :: text) = lowerChar c :: lowerFrom (casedBefore before c) text := by
  simp [lowerFrom, h, h']

theorem lowerFrom_cons_of_isBlank {c : Char} (h : isBlank c = true) (before : Bool)
    (text : List Char) :
    lowerFrom before (c :: text) = c :: lowerFrom (casedBefore before c) text := by
  have hne : ∀ d : Char, isBlank d = false → c ≠ d := by
    rintro d hd rfl
    exact absurd h (by simp [hd])
  rw [lowerFrom_cons (hne _ (by decide)) (hne _ (by decide)), lowerChar_of_isBlank h]

theorem lowerFrom_cons_of_ascii {c : Char} (h : c.toNat < 128) (before : Bool)
    (text : List Char) :
    lowerFrom before (c :: text) = c.toLower :: lowerFrom (casedBefore before c) text := by
  have hne : ∀ d : Char, 128 ≤ d.toNat → c ≠ d := by
    rintro d hd rfl
    omega
  rw [lowerFrom_cons (hne _ (by decide)) (hne _ (by decide)), lowerChar, if_pos h]

/-- Lower case and dropping the blanks give the plain text back, in any context. -/
theorem visible_lowerFrom_of_spelling {text plain : List Char} (h : Spelling text plain)
    (hplain : ∀ c ∈ plain, IsPlain c) (before : Bool) :
    (lowerFrom before text).filter (fun c => !isBlank c) = plain := by
  induction h generalizing before with
  | nil => rfl
  | blank hc _ ih =>
      rw [lowerFrom_cons_of_isBlank hc, List.filter_cons_of_neg (by simp [hc]), ih hplain]
  | @same c _ _ _ ih =>
      have hc := hplain c List.mem_cons_self
      rw [lowerFrom_cons_of_ascii hc.1, toLower_of_isPlain hc,
        List.filter_cons_of_pos (by simp [hc.2.2]),
        ih fun d hd => hplain d (List.mem_cons_of_mem c hd)]
  | @capital c _ _ _ ih =>
      have hc := hplain c List.mem_cons_self
      obtain ⟨hascii, hlower⟩ := toLower_toUpper_of_isPlain hc
      rw [lowerFrom_cons_of_ascii hascii, hlower, List.filter_cons_of_pos (by simp [hc.2.2]),
        ih fun d hd => hplain d (List.mem_cons_of_mem c hd)]

theorem visible_lower_of_spelling {text plain : List Char} (h : Spelling text plain)
    (hplain : ∀ c ∈ plain, IsPlain c) :
    (lower text).filter (fun c => !isBlank c) = plain :=
  visible_lowerFrom_of_spelling h hplain false

/-- A spelling of a plain text has a visible character. -/
theorem not_all_isBlank_of_spelling {text plain : List Char} (h : Spelling text plain)
    (hplain : ∀ c ∈ plain, IsPlain c) (hne : plain ≠ []) : text.all isBlank = false := by
  induction h with
  | nil => exact absurd rfl hne
  | blank hc _ ih => rw [List.all_cons, hc, Bool.true_and, ih hplain hne]
  | @same c _ _ _ _ =>
      rw [List.all_cons, (hplain c List.mem_cons_self).2.2, Bool.false_and]
  | @capital c _ _ _ _ =>
      have hvisible : isBlank c.toUpper = false :=
        forall_ascii (P := fun c => IsPlain c → isBlank c.toUpper = false) (by decide +kernel)
          (hplain c List.mem_cons_self).1 (hplain c List.mem_cons_self)
      rw [List.all_cons, hvisible, Bool.false_and]

/-! Words of letters. -/

/-- A text of ASCII letters only. -/
def IsWord (word : List Char) : Prop := ∀ c ∈ word, c.isAlpha = true

instance (word : List Char) : Decidable (IsWord word) := inferInstanceAs (Decidable (∀ c ∈ _, _))

theorem toNat_lt_of_isAlpha {c : Char} (h : c.isAlpha = true) : c.toNat < 128 := by
  have hle : c.toNat ≤ 122 := by
    rcases (Bool.or_eq_true _ _).mp h with hupper | hlower
    · have hle : c.val ≤ 90 := (of_decide_eq_true hupper).2
      exact Nat.le_trans (UInt32.le_iff_toNat_le.1 hle) (by decide)
    · exact UInt32.le_iff_toNat_le.1 (of_decide_eq_true ((Bool.and_eq_true _ _).mp hlower).2)
  exact Nat.lt_of_le_of_lt hle (by decide)

theorem isPlain_toLower_of_isAlpha {c : Char} (h : c.isAlpha = true) : IsPlain c.toLower :=
  forall_ascii (P := fun c => c.isAlpha = true → IsPlain c.toLower) (by decide +kernel)
    (toNat_lt_of_isAlpha h) h

theorem isDigit_toLower_of_isAlpha {c : Char} (h : c.isAlpha = true) :
    isDigit c.toLower = false :=
  forall_ascii (P := fun c => c.isAlpha = true → isDigit c.toLower = false)
    (by decide +kernel) (toNat_lt_of_isAlpha h) h

theorem toUpper_toLower_of_isAlpha {c : Char} (h : c.isAlpha = true) :
    c.toLower = c ∨ c.toLower.toUpper = c :=
  forall_ascii (P := fun c => c.isAlpha = true → c.toLower = c ∨ c.toLower.toUpper = c)
    (by decide +kernel) (toNat_lt_of_isAlpha h) h

/-- A word is spelled from its small letters. -/
theorem spelling_of_isWord {word : List Char} (h : IsWord word) :
    Spelling word (word.map Char.toLower) := by
  induction word with
  | nil => exact .nil
  | cons c word ih =>
      obtain ⟨hc, hword⟩ := List.forall_mem_cons.1 h
      rw [List.map_cons]
      rcases toUpper_toLower_of_isAlpha hc with hlower | hupper
      · rw [hlower]
        exact .same (ih hword)
      · have hspelling := Spelling.capital (c := c.toLower) (ih hword)
        rwa [hupper] at hspelling

end ExpectedDamage.Text
