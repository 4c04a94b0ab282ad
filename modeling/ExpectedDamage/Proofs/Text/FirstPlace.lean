import ExpectedDamage.Proofs.Text.PieceRow
import ExpectedDamage.Text.Search
import Mathlib.Data.List.TakeDrop
import Mathlib.Data.List.TakeWhile
/-!
# The first place of a wording

A search finds what is at the first place that has anything (`firstIn?_eq_some_iff`), so it
passes over a beginning of the text where its wording finds nothing (`firstIn?_append`). A
wording that opens with a number passes over everything without a digit, and one with a number
behind a phrase does too, even if the phrase itself stands behind: an occurrence of the phrase
that begins earlier goes on with a character of the text passed over or of the phrase, not with
a digit (`endsNumber_of_after?`).
-/

namespace ExpectedDamage.Text

/-! Words. -/

theorem after?_append (word text : List Char) : after? word (word ++ text) = some text := by
  induction word with
  | nil => rfl
  | cons w word ih => simp only [List.cons_append, after?, if_true, ih]

theorem eq_append_of_after? {word text rest : List Char} (h : after? word text = some rest) :
    text = word ++ rest := by
  induction word generalizing text with
  | nil => exact Option.some.inj h
  | cons w word ih =>
      cases text with
      | nil => exact nomatch h
      | cons c text =>
          rw [after?] at h
          split at h
          · next hc => rw [hc, ih h, List.cons_append]
          · exact nomatch h

theorem after?_eq_some_iff {word text rest : List Char} :
    after? word text = some rest ↔ text = word ++ rest :=
  ⟨eq_append_of_after?, fun h => h ▸ after?_append word rest⟩

/-! Numbers. -/

/-- A run of digits, of which there is one at least. -/
def IsRun (digits : List Char) : Prop := digits ≠ [] ∧ ∀ c ∈ digits, isDigit c = true

theorem Numeral.isRun_digits (n : Numeral) : IsRun n.digits :=
  ⟨n.ne_nil, fun c hc => isDigit_of_isDigit (n.isDigit_of_mem c hc)⟩

/-- The number that a text begins with takes all digits up to the first other character. -/
theorem leadingNumber?_eq_some_iff {digits text rest : List Char} :
    leadingNumber? text = some (digits, rest) ↔
      text = digits ++ rest ∧ IsRun digits ∧ EndsNumber rest := by
  have hfound : leadingNumber? text =
      if text.takeWhile isDigit = [] then none
      else some (text.takeWhile isDigit, text.dropWhile isDigit) := by
    rw [leadingNumber?, List.span_eq_takeWhile_dropWhile]
    split
    · next heq => rw [if_pos (Prod.mk.inj heq).1]
    · next hne => rw [if_neg fun hnil => hne _ (Prod.ext hnil rfl)]
  rw [hfound]
  constructor
  · intro h
    obtain ⟨hne, h⟩ := Option.ite_none_left_eq_some.1 h
    obtain ⟨rfl, rfl⟩ := Prod.mk.inj (Option.some.inj h)
    refine ⟨List.takeWhile_append_dropWhile.symm, ⟨hne, fun c => List.mem_takeWhile_imp⟩, ?_⟩
    intro c hc
    have hhead := List.head?_dropWhile_not isDigit text
    rwa [Option.mem_def.1 hc] at hhead
  · rintro ⟨rfl, ⟨hne, hdigits⟩, hrest⟩
    have hend : rest.takeWhile isDigit = [] ∧ rest.dropWhile isDigit = rest := by
      cases rest with
      | nil => exact ⟨rfl, rfl⟩
      | cons c rest =>
          have hc : ¬ isDigit c = true := by simp [hrest c rfl]
          exact ⟨List.takeWhile_cons_of_neg hc, List.dropWhile_cons_of_neg hc⟩
    rw [List.takeWhile_append_of_pos hdigits, List.dropWhile_append_of_pos hdigits, hend.1, hend.2,
      List.append_nil, if_neg hne]

theorem leadingNumber?_numeral (n : Numeral) {text : List Char} (h : EndsNumber text) :
    leadingNumber? (n.digits ++ text) = some (n.digits, text) :=
  leadingNumber?_eq_some_iff.2 ⟨rfl, n.isRun_digits, h⟩

theorem leadingNumber?_eq_none {text : List Char} (h : EndsNumber text) :
    leadingNumber? text = none := by
  cases text with
  | nil => rfl
  | cons c text =>
      have hc : isDigit c = false := h c rfl
      rw [leadingNumber?, List.span_eq_takeWhile_dropWhile,
        List.takeWhile_cons_of_neg (by simp [hc])]

theorem endsNumber_append {marks : List Char} (h : ∀ c ∈ marks, isDigit c = false)
    (hne : marks ≠ []) (text : List Char) : EndsNumber (marks ++ text) := by
  obtain ⟨c, marks, rfl⟩ := List.exists_cons_of_ne_nil hne
  exact endsNumber_cons (h c List.mem_cons_self)

/-- Behind a phrase that begins before the place where the phrase stands, there is no
number. -/
theorem endsNumber_of_after? {phrase marks text rest : List Char}
    (hphrase : ∀ c ∈ phrase, isDigit c = false) (hmarks : ∀ c ∈ marks, isDigit c = false)
    (hne : marks ≠ []) (h : after? phrase (marks ++ (phrase ++ text)) = some rest) :
    EndsNumber rest := by
  have happend := eq_append_of_after? h
  rw [← List.append_assoc] at happend
  -- What follows the early occurrence begins within the marks and the phrase behind them.
  have hlength : phrase.length < (marks ++ phrase).length := by
    have := List.length_pos_iff.2 hne
    simp only [List.length_append]
    omega
  rcases List.append_eq_append_iff.1 happend with ⟨more, hmore, -⟩ | ⟨more, hmore, rfl⟩
  · have := congrArg List.length hmore
    simp only [List.length_append] at this hlength
    omega
  · apply endsNumber_append
    · intro c hc
      have hmem : c ∈ marks ++ phrase := by
        rw [hmore]
        exact List.mem_append_right _ hc
      exact (List.mem_append.1 hmem).elim (hmarks c) (hphrase c)
    · rintro rfl
      rw [hmore, List.append_nil] at hlength
      exact Nat.lt_irrefl _ hlength

/-! Searches. -/

section Search

variable {α : Type} {wording : List Char → Option α}

theorem firstIn?_of_some {text : List Char} {a : α} (h : wording text = some a) :
    firstIn? wording text = some a := by
  cases text with
  | nil => exact h
  | cons c text => rw [firstIn?, h]

/-- A search passes over the places where nothing is found. -/
theorem firstIn?_append {marks text : List Char}
    (h : ∀ part, part <:+ marks → part ≠ [] → wording (part ++ text) = none) :
    firstIn? wording (marks ++ text) = firstIn? wording text := by
  induction marks with
  | nil => rfl
  | cons c marks ih =>
      have hhere := h (c :: marks) List.suffix_rfl (List.cons_ne_nil c marks)
      rw [List.cons_append] at hhere ⊢
      rw [firstIn?, hhere]
      exact ih fun part hpart => h part (hpart.trans (List.suffix_cons c marks))

/-- A search finds nothing exactly if there is nothing at any place of the text. -/
theorem firstIn?_eq_none_iff {text : List Char} :
    firstIn? wording text = none ↔ ∀ place, place <:+ text → wording place = none := by
  induction text with
  | nil => simp only [firstIn?, List.suffix_nil, forall_eq]
  | cons c text ih =>
      rw [firstIn?]
      simp only [List.suffix_cons_iff, forall_eq_or_imp, ← ih]
      cases wording (c :: text) with
      | none => simp only [true_and]
      | some found => simp only [reduceCtorEq, false_and]

/-- A search finds something exactly if there is something at a place of the text. -/
theorem isSome_firstIn?_iff {text : List Char} : (firstIn? wording text).isSome = true ↔
    ∃ before place a, text = before ++ place ∧ wording place = some a := by
  rw [← not_iff_not, Bool.not_eq_true, Option.isSome_eq_false_iff, Option.isNone_iff_eq_none,
    firstIn?_eq_none_iff]
  constructor
  · rintro h ⟨before, place, a, rfl, hplace⟩
    exact nomatch (h place ⟨before, rfl⟩).symm.trans hplace
  · rintro h place ⟨before, rfl⟩
    exact Option.eq_none_iff_forall_ne_some.2 fun a ha => h ⟨before, place, a, rfl, ha⟩

/-- A search finds what is at the first place that has anything. -/
theorem firstIn?_eq_some_iff {text : List Char} {a : α} :
    firstIn? wording text = some a ↔ ∃ before place, text = before ++ place ∧
      wording place = some a ∧
        ∀ part, part <:+ before → part ≠ [] → wording (part ++ place) = none := by
  constructor
  · intro h
    induction text with
    | nil => exact ⟨[], [], rfl, h, fun part hpart hne => absurd (List.suffix_nil.1 hpart) hne⟩
    | cons c text ih =>
        rw [firstIn?] at h
        split at h
        · next found hfound =>
            obtain rfl := Option.some.inj h
            exact ⟨[], c :: text, rfl, hfound,
              fun part hpart hne => absurd (List.suffix_nil.1 hpart) hne⟩
        · next hnone =>
            obtain ⟨before, place, rfl, hplace, hbefore⟩ := ih h
            refine ⟨c :: before, place, rfl, hplace, fun part hpart hne => ?_⟩
            rcases List.suffix_cons_iff.1 hpart with rfl | hpart
            · exact hnone
            · exact hbefore part hpart hne
  · rintro ⟨before, place, rfl, hplace, hbefore⟩
    rw [firstIn?_append hbefore, firstIn?_of_some hplace]

/-- The first place that has anything is the one with the shortest text in front. -/
theorem firstIn?_eq_some_iff_le {text : List Char} {a : α} :
    firstIn? wording text = some a ↔ ∃ before place, text = before ++ place ∧
      wording place = some a ∧ ∀ before' place', text = before' ++ place' →
        wording place' ≠ none → before.length ≤ before'.length := by
  rw [firstIn?_eq_some_iff]
  refine exists_congr fun before => exists_congr fun place => ?_
  refine and_congr_right fun htext => and_congr_right fun _ => ?_
  constructor
  · intro hbefore before' place' htext' hplace'
    rcases List.append_eq_append_iff.1 (htext'.symm.trans htext) with
      ⟨part, hpart, rfl⟩ | ⟨part, rfl, -⟩
    · -- A place that lies further in front would have been found.
      by_cases hne : part = []
      · rw [hpart, hne, List.append_nil]
      · exact absurd (hbefore part ⟨before', hpart.symm⟩ hne) hplace'
    · rw [List.length_append]
      exact Nat.le_add_right _ _
  · rintro hle part ⟨before', rfl⟩ hne
    by_contra hplace
    have hshort := hle before' (part ++ place) (by rw [htext, List.append_assoc]) hplace
    rw [List.length_append] at hshort
    have := List.length_pos_iff.2 hne
    omega

/-- Places of some kind say where in a text a wording finds something, and what it finds. -/
def Describes {Place : Type} (before : Place → List Char) (found : Place → α)
    (wording : List Char → Option α) (text : List Char) : Prop :=
  ∀ start a, (∃ place, text = start ++ place ∧ wording place = some a) ↔
    ∃ p, before p = start ∧ found p = a

section Places

variable {Place : Type} {before : Place → List Char} {found : Place → α} {text : List Char}

theorem Describes.isSome_firstIn?_iff (h : Describes before found wording text) :
    (firstIn? wording text).isSome = true ↔ Nonempty Place := by
  rw [Text.isSome_firstIn?_iff]
  constructor
  · rintro ⟨start, place, a, htext, hplace⟩
    obtain ⟨p, -⟩ := (h start a).1 ⟨place, htext, hplace⟩
    exact ⟨p⟩
  · rintro ⟨p⟩
    obtain ⟨place, htext, hplace⟩ := (h _ _).2 ⟨p, rfl, rfl⟩
    exact ⟨before p, place, found p, htext, hplace⟩

/-- A search finds what the first place says. -/
theorem Describes.firstIn?_eq_some_iff (h : Describes before found wording text) {a : α} :
    firstIn? wording text = some a ↔
      ∃ p, (∀ other, (before p).length ≤ (before other).length) ∧ found p = a := by
  rw [firstIn?_eq_some_iff_le]
  constructor
  · rintro ⟨start, place, htext, hplace, hle⟩
    obtain ⟨p, rfl, rfl⟩ := (h start a).1 ⟨place, htext, hplace⟩
    refine ⟨p, fun other => ?_, rfl⟩
    obtain ⟨place', htext', hplace'⟩ := (h _ _).2 ⟨other, rfl, rfl⟩
    exact hle _ _ htext' (hplace' ▸ Option.some_ne_none _)
  · rintro ⟨p, hfirst, rfl⟩
    obtain ⟨place, htext, hplace⟩ := (h _ _).2 ⟨p, rfl, rfl⟩
    refine ⟨before p, place, htext, hplace, fun start place' htext' hne => ?_⟩
    obtain ⟨b, hb⟩ := Option.ne_none_iff_exists'.1 hne
    obtain ⟨other, rfl, -⟩ := (h start b).1 ⟨place', htext', hb⟩
    exact hfirst other

end Places

/-- A text contains a word exactly if the word stands somewhere in it. -/
theorem contains_iff {word : String} {text : List Char} :
    contains word text = true ↔ word.toList <:+: text := by
  simp only [contains, isSome_firstIn?_iff, after?_eq_some_iff]
  constructor
  · rintro ⟨before, _, after, rfl, rfl⟩
    exact ⟨before, after, List.append_assoc _ _ _⟩
  · rintro ⟨before, after, rfl⟩
    exact ⟨before, _, after, List.append_assoc _ _ _, rfl⟩

/-- A search for a wording that opens with a number passes over what has no digit. -/
theorem firstIn?_append_of_number (hwording : ∀ text, EndsNumber text → wording text = none)
    {marks : List Char} (h : ∀ c ∈ marks, isDigit c = false) (text : List Char) :
    firstIn? wording (marks ++ text) = firstIn? wording text :=
  firstIn?_append fun _ hpart hne =>
    hwording _ (endsNumber_append (fun c hc => h c (hpart.subset hc)) hne text)

end Search

/-! Gaps. -/

theorem mem_placesWithin_self (n : Nat) (text : List Char) : text ∈ placesWithin n text := by
  cases n with
  | zero => exact List.mem_cons_self
  | succ n =>
      cases text with
      | nil => exact List.mem_cons_self
      | cons c text =>
          rw [placesWithin]
          split <;> exact List.mem_cons_self

/-- A gap leads to a place if it is not too long and stays on the line. -/
theorem mem_placesWithin_iff {n : Nat} {text place : List Char} :
    place ∈ placesWithin n text ↔
      ∃ gap, text = gap ++ place ∧ gap.length ≤ n ∧ '\n' ∉ gap := by
  constructor
  · intro h
    induction n generalizing text with
    | zero => exact ⟨[], (List.mem_singleton.1 h).symm, Nat.le_refl 0, List.not_mem_nil⟩
    | succ n ih =>
        cases text with
        | nil => exact ⟨[], (List.mem_singleton.1 h).symm, Nat.zero_le _, List.not_mem_nil⟩
        | cons c text =>
            rw [placesWithin] at h
            split at h
            · exact ⟨[], (List.mem_singleton.1 h).symm, Nat.zero_le _, List.not_mem_nil⟩
            · next hc =>
                rcases List.mem_cons.1 h with rfl | h
                · exact ⟨[], rfl, Nat.zero_le _, List.not_mem_nil⟩
                · obtain ⟨gap, rfl, hlength, hgap⟩ := ih h
                  refine ⟨c :: gap, rfl, Nat.succ_le_succ hlength, ?_⟩
                  exact List.not_mem_cons_of_ne_of_not_mem (Ne.symm hc) hgap
  · rintro ⟨gap, rfl, hn, h⟩
    induction gap generalizing n with
    | nil => exact mem_placesWithin_self n place
    | cons c gap ih =>
        obtain ⟨hc, hgap⟩ := List.ne_and_not_mem_of_not_mem_cons h
        obtain ⟨n, rfl⟩ : ∃ k, n = k + 1 := Nat.exists_eq_add_one.2 (Nat.zero_lt_of_lt hn)
        rw [List.cons_append, placesWithin, if_neg hc.symm]
        exact List.mem_cons_of_mem _ (ih (Nat.le_of_succ_le_succ hn) hgap)

theorem mem_placesOnLine_append {gap : List Char} (h : '\n' ∉ gap) (text : List Char) :
    text ∈ placesOnLine (gap ++ text) :=
  mem_placesWithin_iff.2 ⟨gap, rfl, by simp, h⟩

end ExpectedDamage.Text
