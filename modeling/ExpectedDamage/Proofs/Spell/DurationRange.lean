import ExpectedDamage.Proofs.Number.Success
import ExpectedDamage.Proofs.Text.Quantity
import ExpectedDamage.Proofs.Text.Spelling
import ExpectedDamage.Spell.Duration
/-!
# How long a spell can last

A fight has between one and a hundred rounds. A duration is not always kept within them: only
minutes are cut at a hundred rounds, rounds are taken as they are, and no minutes or rounds are
none at all. Which number decides is said by the text alone: the first number of minutes, or the
first number of rounds where the text names no minutes, unless it speaks of an instant or of
exactly one round (`rounds?_within_iff`).
-/

namespace ExpectedDamage.Spell

open Text

/-! Units of time. -/

/-- The units that a number of a duration can have. -/
def timeUnits : List String := ["minute", "round"]

/-- The text begins with a unit, behind any number of blanks. -/
def Names (unit : String) (text : List Char) : Prop :=
  ∃ gap, (∀ c ∈ gap, isBlank c = true) ∧ ∃ after, text = gap ++ (unit.toList ++ after)

/-- The text begins with a unit as a whole word, behind any number of blanks. -/
def NamesWord (unit : String) (text : List Char) : Prop :=
  ∃ gap, (∀ c ∈ gap, isBlank c = true) ∧
    ∃ after, text = gap ++ (unit.toList ++ after) ∧ endsWord after = true

section Units

variable {unit : String} (h : unit ∈ timeUnits)

include h

theorem exists_letter_of_timeUnit :
    ∃ c word, unit.toList = c :: word ∧ isBlank c = false ∧ isDigit c = false := by
  rcases List.mem_pair.1 h with rfl | rfl
  · exact ⟨'m', _, rfl, by decide, by decide⟩
  · exact ⟨'r', _, rfl, by decide, by decide⟩

theorem afterBlanks?_eq_some_iff {text rest : List Char} :
    afterBlanks? unit text = some rest ↔
      ∃ gap, (∀ c ∈ gap, isBlank c = true) ∧ text = gap ++ (unit.toList ++ rest) := by
  rw [afterBlanks?, after?_eq_some_iff]
  constructor
  · intro hdrop
    refine ⟨text.takeWhile isBlank, fun c => List.mem_takeWhile_imp, ?_⟩
    rw [← hdrop, List.takeWhile_append_dropWhile]
  · rintro ⟨gap, hgap, rfl⟩
    obtain ⟨c, word, hword, hc, -⟩ := exists_letter_of_timeUnit h
    rw [List.dropWhile_append_of_pos hgap, hword, List.cons_append,
      List.dropWhile_cons_of_neg (by simp [hc])]

theorem endsNumber_of_names {text : List Char} (htext : Names unit text) : EndsNumber text := by
  obtain ⟨gap, hgap, after, rfl⟩ := htext
  obtain ⟨c, word, hword, -, hc⟩ := exists_letter_of_timeUnit h
  cases gap with
  | nil =>
      rw [List.nil_append, hword]
      exact endsNumber_cons hc
  | cons blank gap => exact endsNumber_cons (isDigit_of_isBlank (hgap blank List.mem_cons_self))

/-- The number at the beginning of a text, if the unit is behind it. -/
theorem finds_names : Quantity.Finds (Names unit) fun place =>
    (leadingNumber? place).bind fun (digits, rest) =>
      (afterBlanks? unit rest).map fun _ => digits := by
  intro place digits
  simp only [Option.bind_eq_some_iff, Prod.exists, leadingNumber?_eq_some_iff,
    Option.map_eq_some_iff, afterBlanks?_eq_some_iff h]
  constructor
  · rintro ⟨_, rest, ⟨rfl, hrun, -⟩, after, ⟨gap, hgap, rfl⟩, rfl⟩
    exact ⟨_, rfl, hrun, gap, hgap, after, rfl⟩
  · rintro ⟨rest, rfl, hrun, gap, hgap, after, rfl⟩
    have hend := endsNumber_of_names h ⟨gap, hgap, after, rfl⟩
    exact ⟨digits, _, ⟨rfl, hrun, hend⟩, after, ⟨gap, hgap, rfl⟩, rfl⟩

omit h in
theorem numberOf?_eq_firstIn? (text : List Char) : numberOf? unit text = firstIn? (fun place =>
    (leadingNumber? place).bind fun (digits, rest) =>
      (afterBlanks? unit rest).map fun _ => digits) text := by
  refine findSome?_numbers (fun digits digits' rest hnone => ?_) text
  rw [Option.map_eq_none_iff] at hnone ⊢
  exact hnone

theorem numberOf?_eq_some_iff {text digits : List Char} : numberOf? unit text = some digits ↔
    ∃ q : Quantity (Names unit) text, q.IsFirst ∧ q.number = digits := by
  rw [numberOf?_eq_firstIn?, Quantity.firstIn?_eq_some_iff (finds_names h)]

theorem numberOf?_eq_none_iff {text : List Char} :
    numberOf? unit text = none ↔ IsEmpty (Quantity (Names unit) text) := by
  rw [numberOf?_eq_firstIn?, Quantity.firstIn?_eq_none_iff (finds_names h)]

end Units

/-! Durations. -/

/-- The text speaks of an instant, or of one round in so many words. -/
def Momentary (text : List Char) : Prop :=
  "instantaneous".toList <:+: text ∨
    ∃ q : Quantity (NamesWord "round") text, q.number = ['1'] ∧ q.IsWhole

theorem speaksOfOneRound_iff {text : List Char} : speaksOfOneRound text = true ↔
    ∃ q : Quantity (NamesWord "round") text, q.number = ['1'] ∧ q.IsWhole := by
  have hround : "round" ∈ timeUnits := by decide
  simp only [speaksOfOneRound, List.any_eq_true, Prod.exists, mem_numbers_iff, Bool.and_eq_true,
    beq_iff_eq, Option.any_eq_true, afterBlanks?_eq_some_iff hround]
  constructor
  · rintro ⟨_, rest, ⟨before, rfl, hrun, -, hbefore⟩, rfl, after, ⟨gap, hgap, rfl⟩, hend⟩
    exact ⟨⟨before, _, _, rfl, hrun, gap, hgap, after, rfl, hend⟩, rfl, hbefore⟩
  · rintro ⟨⟨before, _, _, rfl, hrun, gap, hgap, after, rfl, hend⟩, rfl, hbefore⟩
    have hnumber := endsNumber_of_names hround ⟨gap, hgap, after, rfl⟩
    exact ⟨_, _, ⟨before, rfl, hrun, hnumber, hbefore⟩, rfl, after, ⟨gap, hgap, rfl⟩, hend⟩

theorem momentary_iff {text : List Char} :
    (contains "instantaneous" text || speaksOfOneRound text) = true ↔ Momentary text := by
  rw [Bool.or_eq_true, speaksOfOneRound_iff, Momentary, contains_iff]

/-- The number can be read, and it is not zero. -/
def MinutesWithinFight (digits : List Char) : Prop :=
  digits.length ≤ WholeText.digitLimit ∧ 1 ≤ digitsValue digits

/-- The number can be read, and a fight has as many rounds. -/
def RoundsWithinFight (digits : List Char) : Prop :=
  digits.length ≤ WholeText.digitLimit ∧ 1 ≤ digitsValue digits ∧ digitsValue digits ≤ 100

/-- The number that decides about the rounds of a text keeps them within a fight. -/
def WithinFight (text : List Char) : Prop :=
  Momentary text ∨
    (∀ minutes : Quantity (Names "minute") text, minutes.IsFirst →
      MinutesWithinFight minutes.number) ∧
    (IsEmpty (Quantity (Names "minute") text) →
      ∀ rounds : Quantity (Names "round") text, rounds.IsFirst →
        RoundsWithinFight rounds.number)

theorem minutes_within_iff {digits : List Char} :
    (∃ n, (fun n => min (n * 10) 100) <$> WholeText.value? digits = .ok n ∧ 1 ≤ n ∧ n ≤ 100) ↔
      MinutesWithinFight digits := by
  simp only [map_eq_ok_iff, WholeText.value?_eq_ok_iff]
  constructor
  · rintro ⟨_, ⟨_, ⟨hlength, rfl⟩, rfl⟩, hone, -⟩
    exact ⟨hlength, by omega⟩
  · rintro ⟨hlength, hone⟩
    exact ⟨_, ⟨_, ⟨hlength, rfl⟩, rfl⟩, by omega, by omega⟩

theorem rounds_within_iff {digits : List Char} :
    (∃ n, WholeText.value? digits = .ok n ∧ 1 ≤ n ∧ n ≤ 100) ↔ RoundsWithinFight digits := by
  simp only [WholeText.value?_eq_ok_iff]
  constructor
  · rintro ⟨_, ⟨hlength, rfl⟩, hrange⟩
    exact ⟨hlength, hrange⟩
  · rintro ⟨hlength, hrange⟩
    exact ⟨_, ⟨hlength, rfl⟩, hrange⟩

theorem roundsOf?_within_iff {text : List Char} :
    (∃ n, roundsOf? text = .ok n ∧ 1 ≤ n ∧ n ≤ 100) ↔ WithinFight text := by
  have hminute : "minute" ∈ timeUnits := by decide
  have hround : "round" ∈ timeUnits := by decide
  by_cases hmomentary : (contains "instantaneous" text || speaksOfOneRound text) = true
  · rw [roundsOf?, if_pos hmomentary]
    exact iff_of_true ⟨1, rfl, by decide⟩ (.inl (momentary_iff.1 hmomentary))
  · rw [roundsOf?, if_neg hmomentary, WithinFight, or_iff_right (mt momentary_iff.2 hmomentary)]
    cases hminutes : numberOf? "minute" text with
    | some digits =>
        obtain ⟨minutes, hfirst, rfl⟩ := (numberOf?_eq_some_iff hminute).1 hminutes
        have hnone : ¬ IsEmpty (Quantity (Names "minute") text) := fun h => h.false minutes
        rw [minutes_within_iff, Quantity.forall_isFirst_iff (finds_names hminute) hfirst,
          and_iff_left fun h => absurd h hnone]
    | none =>
        have hnone := (numberOf?_eq_none_iff hminute).1 hminutes
        rw [and_iff_right fun minutes => (hnone.false minutes).elim, forall_prop_of_true hnone]
        cases hrounds : numberOf? "round" text with
        | some digits =>
            obtain ⟨rounds, hfirst, rfl⟩ := (numberOf?_eq_some_iff hround).1 hrounds
            rw [rounds_within_iff, Quantity.forall_isFirst_iff (finds_names hround) hfirst]
        | none =>
            have hempty := (numberOf?_eq_none_iff hround).1 hrounds
            refine iff_of_true ⟨_, rfl, ?_⟩ fun rounds => (hempty.false rounds).elim
            split <;> decide

/-- A duration lasts for a number of rounds between one and a hundred exactly if it is missing,
or if the number that decides about it keeps it within a fight. -/
theorem rounds?_within_iff (duration : Option String) :
    (∃ n, rounds? duration = .ok n ∧ 1 ≤ n ∧ n ≤ 100) ↔
      ∀ text ∈ duration, WithinFight (lower text.toList) := by
  cases duration with
  | none => exact iff_of_true ⟨1, rfl, by decide⟩ nofun
  | some text =>
      simp only [Option.mem_some_iff, forall_eq']
      exact roundsOf?_within_iff

/-- Rounds are not cut at a hundred, and no minutes are no rounds. -/
example : rounds? (some "500 rounds") = .ok 500 ∧ rounds? (some "0 minutes") = .ok 0 := by
  decide +kernel

end ExpectedDamage.Spell
