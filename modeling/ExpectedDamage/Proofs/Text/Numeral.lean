import ExpectedDamage.Number.WholeText
import ExpectedDamage.Text.Piece
import Mathlib.Algebra.Group.Nat.Defs
/-!
# Numerals

A numeral is a run of ASCII digits with at least one of them, so it has a value and is a
single piece of a text. The numeral of a whole number is its decimal digits, and
`value_ofNat` says that reading them gives the number back. A numeral that is not longer
than a text allows is `Short`; this is `Fits` of the number for a numeral of a number
(`short_ofNat_natAbs_iff`). Digits of other scripts are read as well, and a number that is
read from them never has more digits than they are (`fits_of_value?`).
-/

namespace ExpectedDamage.Text

theorem toNat_lt_of_isDigit {c : Char} (h : c.isDigit = true) : c.toNat < 128 := by
  simp only [Char.isDigit, Bool.and_eq_true, decide_eq_true_eq, UInt32.le_iff_toNat_le] at h
  exact Nat.lt_of_le_of_lt h.2 (by decide)

/-- The ten digits of ASCII are digits, and their values are their distances from zero. -/
theorem digitValue?_of_isDigit {c : Char} (h : c.isDigit = true) :
    digitValue? c = some (c.toNat - '0'.toNat) := by
  rw [digitValue?, if_pos (toNat_lt_of_isDigit h), if_pos h]

theorem isDigit_of_isDigit {c : Char} (h : c.isDigit = true) : isDigit c = true := by
  simp [isDigit, digitValue?_of_isDigit h]

theorem foldl_digitValue? {digits : List Char} (h : ∀ c ∈ digits, c.isDigit = true)
    (value : Nat) :
    digits.foldl (fun value c => 10 * value + (digitValue? c).getD 0) value =
      Nat.ofDigitChars 10 digits value := by
  induction digits generalizing value with
  | nil => rfl
  | cons c digits ih =>
      have hc := digitValue?_of_isDigit (h c List.mem_cons_self)
      rw [List.foldl_cons, Nat.ofDigitChars_cons, hc, Option.getD_some,
        ih fun d hd => h d (List.mem_cons_of_mem c hd)]

theorem digitsValue_toDigits (n : Nat) : digitsValue (Nat.toDigits 10 n) = n := by
  have hdigits : ∀ c ∈ Nat.toDigits 10 n, c.isDigit = true := fun c hc =>
    Nat.isDigit_of_mem_toDigits (by decide) (by decide) hc
  rw [digitsValue, foldl_digitValue? hdigits, Nat.ofDigitChars_ten_toDigits]

/-! The digits of every script have values below ten. -/

theorem digitValue?_lt {c : Char} {d : Nat} (h : digitValue? c = some d) : d < 10 := by
  unfold digitValue? at h
  split at h
  · split at h
    · next hdigit =>
        simp only [Char.isDigit, Bool.and_eq_true, decide_eq_true_eq,
          UInt32.le_iff_toNat_le] at hdigit
        have hnine : c.toNat ≤ 57 := hdigit.2
        have hzero : '0'.toNat = 48 := rfl
        obtain rfl := Option.some.inj h
        omega
    · exact nomatch h
  · obtain ⟨z, hz, rfl⟩ := Option.map_eq_some_iff.1 h
    have hblock := List.find?_some hz
    simp only [Bool.and_eq_true, decide_eq_true_eq] at hblock
    omega

theorem getD_digitValue?_lt (c : Char) : (digitValue? c).getD 0 < 10 := by
  cases h : digitValue? c with
  | none => decide
  | some d => exact digitValue?_lt h

theorem foldl_digitValue?_lt (digits : List Char) (value : Nat) :
    digits.foldl (fun value c => 10 * value + (digitValue? c).getD 0) value <
      (value + 1) * 10 ^ digits.length := by
  induction digits generalizing value with
  | nil => simp
  | cons c digits ih =>
      have hstep : 10 * value + (digitValue? c).getD 0 + 1 ≤ (value + 1) * 10 := by
        have hdigit := getD_digitValue?_lt c
        omega
      calc (c :: digits).foldl _ value
          < (10 * value + (digitValue? c).getD 0 + 1) * 10 ^ digits.length := ih _
        _ ≤ (value + 1) * 10 * 10 ^ digits.length := Nat.mul_le_mul_right _ hstep
        _ = (value + 1) * 10 ^ (c :: digits).length := by
          rw [List.length_cons, Nat.pow_succ, Nat.mul_assoc, Nat.mul_comm 10]

/-- A run of digits says less than the power of ten with as many zeros. -/
theorem digitsValue_lt (digits : List Char) : digitsValue digits < 10 ^ digits.length := by
  simpa [digitsValue] using foldl_digitValue?_lt digits 0

/-- A run of ASCII digits. -/
structure Numeral where
  digits : List Char
  ne_nil : digits ≠ []
  isDigit_of_mem : ∀ c ∈ digits, c.isDigit = true

namespace Numeral

/-- The number that a numeral says. -/
def value (n : Numeral) : Nat := digitsValue n.digits

/-- Whether the numeral is not longer than a text allows. -/
def Short (n : Numeral) : Prop := n.digits.length ≤ WholeText.digitLimit

instance (n : Numeral) : Decidable n.Short := inferInstanceAs (Decidable (_ ≤ _))

/-- The decimal digits of a number. -/
def ofNat (n : Nat) : Numeral where
  digits := Nat.toDigits 10 n
  ne_nil := Nat.toDigits_ne_nil
  isDigit_of_mem _ hc := Nat.isDigit_of_mem_toDigits (by decide) (by decide) hc

@[simp] theorem value_ofNat (n : Nat) : (ofNat n).value = n := digitsValue_toDigits n

theorem short_ofNat_natAbs_iff (n : Int) : (ofNat n.natAbs).Short ↔ WholeText.Fits n := Iff.rfl

theorem short_ofNat_iff (n : Nat) : (ofNat n).Short ↔ n < 10 ^ WholeText.digitLimit :=
  Nat.length_toDigits_le_iff (by decide) (by decide)

theorem value?_digits (n : Numeral) :
    WholeText.value? n.digits = if n.Short then .ok n.value else .error .tooLong := rfl

end Numeral

end ExpectedDamage.Text

namespace ExpectedDamage.WholeText

theorem fits_natCast_iff (n : Nat) : Fits n ↔ n < 10 ^ digitLimit :=
  Text.Numeral.short_ofNat_iff n

/-- A number that can be read can be written. -/
theorem fits_of_value? {digits : List Char} {n : Nat} (h : value? digits = .ok n) : Fits n := by
  obtain ⟨hlength, rfl⟩ := value?_eq_ok_iff.1 h
  rw [fits_natCast_iff]
  exact Nat.lt_of_lt_of_le (Text.digitsValue_lt digits) (Nat.pow_le_pow_right (by decide) hlength)

end ExpectedDamage.WholeText
