import Mathlib.Data.List.Basic
import Mathlib.Logic.IsEmpty.Basic
import ExpectedDamage.Proofs.Text.FirstPlace
/-!
# Quantities

A quantity is a number in front of its unit, which is any condition on what stands behind the
number. A search for the unit finds the number of the first quantity
(`Quantity.firstIn?_eq_some_iff`). The numbers of a text are its whole runs of digits
(`mem_numbers_iff`), and a choice among them that depends on what stands behind is a search at
every place of the text (`findSome?_numbers`): within a run, the same stands behind.
-/

namespace ExpectedDamage.Text

/-- A place of a text where a number stands in front of its unit. -/
structure Quantity (Unit : List Char → Prop) (text : List Char) where
  before : List Char
  number : List Char
  rest : List Char
  text_eq : text = before ++ (number ++ rest)
  isRun_number : IsRun number
  unit_rest : Unit rest

namespace Quantity

variable {Unit : List Char → Prop} {text : List Char}

/-- The quantity begins no later than any other with this unit. -/
def IsFirst (q : Quantity Unit text) : Prop :=
  ∀ other : Quantity Unit text, q.before.length ≤ other.before.length

/-- No digit stands in front of the number. -/
def IsWhole (q : Quantity Unit text) : Prop := ∀ c ∈ q.before.getLast?, isDigit c = false

/-- The same number with a wider unit. -/
def imp {Unit' : List Char → Prop} (q : Quantity Unit text)
    (h : ∀ rest, Unit rest → Unit' rest) : Quantity Unit' text :=
  { q with unit_rest := h q.rest q.unit_rest }

/-- The wording finds a number at the beginning of a text exactly if the unit is behind it. -/
def Finds (Unit : List Char → Prop) (wording : List Char → Option (List Char)) : Prop :=
  ∀ place digits, wording place = some digits ↔
    ∃ rest, place = digits ++ rest ∧ IsRun digits ∧ Unit rest

section Search

variable {wording : List Char → Option (List Char)} (h : Finds Unit wording)

include h

/-- The quantities are the places where a number is found. -/
theorem Finds.describes :
    Describes (fun q : Quantity Unit text => q.before) (·.number) wording text := by
  intro start digits
  simp only [h _ digits]
  constructor
  · rintro ⟨_, htext, rest, rfl, hrun, hunit⟩
    exact ⟨⟨start, digits, rest, htext, hrun, hunit⟩, rfl, rfl⟩
  · rintro ⟨q, rfl, rfl⟩
    exact ⟨_, q.text_eq, q.rest, rfl, q.isRun_number, q.unit_rest⟩

/-- A search for a unit finds the number of the first quantity. -/
theorem firstIn?_eq_some_iff {digits : List Char} : firstIn? wording text = some digits ↔
    ∃ q : Quantity Unit text, q.IsFirst ∧ q.number = digits :=
  h.describes.firstIn?_eq_some_iff

theorem IsFirst.number_eq {first other : Quantity Unit text} (hfirst : first.IsFirst)
    (hother : other.IsFirst) : first.number = other.number := by
  have hfound := (firstIn?_eq_some_iff h).2 ⟨first, hfirst, rfl⟩
  rw [(firstIn?_eq_some_iff h).2 ⟨other, hother, rfl⟩] at hfound
  exact (Option.some.inj hfound).symm

/-- What holds of every first number holds of the first number. -/
theorem forall_isFirst_iff {P : List Char → Prop} {first : Quantity Unit text}
    (hfirst : first.IsFirst) :
    (∀ other : Quantity Unit text, other.IsFirst → P other.number) ↔ P first.number :=
  ⟨fun hall => hall first hfirst, fun hP _ hother => hfirst.number_eq h hother ▸ hP⟩

theorem firstIn?_eq_none_iff :
    firstIn? wording text = none ↔ IsEmpty (Quantity Unit text) := by
  rw [← not_nonempty_iff, ← h.describes.isSome_firstIn?_iff, Option.not_isSome_iff_eq_none]

/-- Where there is a quantity, there is a first one. -/
theorem exists_isFirst (q : Quantity Unit text) : ∃ first : Quantity Unit text,
    first.IsFirst ∧ firstIn? wording text = some first.number := by
  cases hfound : firstIn? wording text with
  | none => exact ((firstIn?_eq_none_iff h).1 hfound).elim q
  | some digits =>
      obtain ⟨first, hfirst, rfl⟩ := (firstIn?_eq_some_iff h).1 hfound
      exact ⟨first, hfirst, rfl⟩

end Search

end Quantity

/-! The numbers of a text. -/

/-- Every text is built from runs of digits, each of them whole, and other characters. -/
theorem induction_on_runs {P : List Char → Prop} (nil : P [])
    (mark : ∀ c text, isDigit c = false → P text → P (c :: text))
    (run : ∀ digits text, IsRun digits → EndsNumber text → P text → P (digits ++ text))
    (text : List Char) : P text := by
  induction hlength : text.length using Nat.strong_induction_on generalizing text with
  | _ n ih =>
    subst hlength
    cases hfound : leadingNumber? text with
    | some found =>
        obtain ⟨digits, rest⟩ := found
        obtain ⟨rfl, hrun, hend⟩ := leadingNumber?_eq_some_iff.1 hfound
        refine run digits rest hrun hend (ih _ ?_ rest rfl)
        rw [List.length_append]
        exact Nat.lt_add_of_pos_left (List.length_pos_iff.2 hrun.1)
    | none =>
        cases text with
        | nil => exact nil
        | cons c text =>
            refine mark c text ?_ (ih _ (Nat.lt_succ_self _) text rfl)
            by_contra hdigit
            rw [Bool.not_eq_false] at hdigit
            rw [leadingNumber?, List.span_eq_takeWhile_dropWhile,
              List.takeWhile_cons_of_pos hdigit] at hfound
            exact Option.some_ne_none _ hfound

theorem flatMap_text_ofText (text : List Char) : (Piece.ofText text).flatMap Piece.text = text := by
  induction text using induction_on_runs with
  | nil => rfl
  | mark c text hc ih =>
      rw [Piece.ofText_cons_mark hc, List.flatMap_cons, ih]
      rfl
  | run digits text hrun hend ih =>
      rw [Piece.ofText_append_digits hrun.1 hrun.2 hend, List.flatMap_cons, ih]
      rfl

theorem numbers_cons_mark {c : Char} (h : isDigit c = false) (text : List Char) :
    numbers (c :: text) = numbers text := by
  rw [numbers, Piece.ofText_cons_mark h]
  rfl

theorem numbers_run_append {digits text : List Char} (hrun : IsRun digits)
    (hend : EndsNumber text) : numbers (digits ++ text) = (digits, text) :: numbers text := by
  rw [numbers, Piece.ofText_append_digits hrun.1 hrun.2 hend, numbersOf, flatMap_text_ofText]
  rfl

theorem not_endsNumber_of_run {digits rest text : List Char} (hrun : IsRun digits)
    (h : text = digits ++ rest) : ¬ EndsNumber text := by
  obtain ⟨c, digits, rfl⟩ := List.exists_cons_of_ne_nil hrun.1
  intro hend
  have hc : isDigit c = false := hend c (by rw [h]; rfl)
  exact absurd (hrun.2 c List.mem_cons_self) (by simp [hc])

/-- The numbers of a text are the runs of digits that no digit stands next to. -/
theorem mem_numbers_iff {text digits rest : List Char} :
    (digits, rest) ∈ numbers text ↔ ∃ before, text = before ++ (digits ++ rest) ∧
      IsRun digits ∧ EndsNumber rest ∧ ∀ c ∈ before.getLast?, isDigit c = false := by
  induction text using induction_on_runs with
  | nil =>
      refine iff_of_false List.not_mem_nil ?_
      rintro ⟨before, htext, hrun, -⟩
      exact hrun.1 (List.append_eq_nil_iff.1 (List.append_eq_nil_iff.1 htext.symm).2).1
  | mark c text hc ih =>
      rw [numbers_cons_mark hc, ih]
      constructor
      · rintro ⟨before, rfl, hrun, hend, hbefore⟩
        refine ⟨c :: before, rfl, hrun, hend, fun d hd => ?_⟩
        cases before with
        | nil => exact Option.some.inj hd ▸ hc
        | cons e before => exact hbefore d (by simpa using hd)
      · rintro ⟨before, htext, hrun, hend, hbefore⟩
        cases before with
        | nil => exact absurd (endsNumber_cons hc) (not_endsNumber_of_run hrun htext)
        | cons d before =>
            obtain ⟨-, rfl⟩ := List.cons.inj htext
            refine ⟨before, rfl, hrun, hend, fun e he => hbefore e ?_⟩
            rw [← List.singleton_append]
            exact List.mem_getLast?_append_of_mem_getLast? he
  | run run text hrun hend ih =>
      rw [numbers_run_append hrun hend, List.mem_cons, ih]
      constructor
      · rintro (heq | ⟨before, htext, hrun', hend', hbefore⟩)
        · obtain ⟨rfl, rfl⟩ := Prod.mk.inj heq
          exact ⟨[], rfl, hrun, hend, nofun⟩
        · refine ⟨run ++ before, by rw [htext, List.append_assoc], hrun', hend', fun c hc => ?_⟩
          rcases List.eq_nil_or_concat before with rfl | ⟨before, d, rfl⟩
          · exact absurd hend (not_endsNumber_of_run hrun' htext)
          · exact hbefore c (by simpa using hc)
      · rintro ⟨before, htext, hrun', hend', hbefore⟩
        rcases List.append_eq_append_iff.1 htext with
          ⟨between, rfl, rfl⟩ | ⟨part, rfl, hpart⟩
        · exact .inr ⟨between, rfl, hrun', hend', fun c hc =>
            hbefore c (List.mem_getLast?_append_of_mem_getLast? hc)⟩
        · -- A run is cut in two only at its beginning, where no digit stands in front.
          rcases List.eq_nil_or_concat before with rfl | ⟨before, c, rfl⟩
          · have hpartRun : IsRun part := by simpa using hrun
            have hfound := leadingNumber?_eq_some_iff.2 ⟨rfl, hrun', hend'⟩
            rw [hpart, leadingNumber?_eq_some_iff.2 ⟨rfl, hpartRun, hend⟩] at hfound
            obtain ⟨rfl, rfl⟩ := Prod.mk.inj (Option.some.inj hfound)
            exact .inl rfl
          · have hdigit := hrun.2 c (by simp)
            have hmark := hbefore c (by simp)
            exact absurd hdigit (by simp [hmark])

/-- A choice of a number by what stands behind it is a search at every place. -/
theorem findSome?_numbers {α : Type} {f : List Char × List Char → Option α}
    (hf : ∀ digits digits' rest, f (digits, rest) = none → f (digits', rest) = none)
    (text : List Char) :
    (numbers text).findSome? f = firstIn? (fun place => (leadingNumber? place).bind f) text := by
  induction text using induction_on_runs with
  | nil => rfl
  | mark c text hc ih =>
      rw [numbers_cons_mark hc, firstIn?, leadingNumber?_eq_none (endsNumber_cons hc)]
      exact ih
  | run digits text hrun hend ih =>
      have hnumber : ∀ part, part <:+ digits → part ≠ [] →
          (leadingNumber? (part ++ text)).bind f = f (part, text) := by
        intro part hpart hne
        have hpartRun : IsRun part := ⟨hne, fun c hc => hrun.2 c (hpart.subset hc)⟩
        rw [leadingNumber?_eq_some_iff.2 ⟨rfl, hpartRun, hend⟩, Option.bind_some]
      rw [numbers_run_append hrun hend, List.findSome?_cons]
      cases hfound : f (digits, text) with
      | some a =>
          refine (firstIn?_of_some ?_).symm
          rw [hnumber digits List.suffix_rfl hrun.1, hfound]
      | none =>
          refine ih.trans (firstIn?_append fun part hpart hne => ?_).symm
          rw [hnumber part hpart hne]
          exact hf digits part text hfound

end ExpectedDamage.Text
