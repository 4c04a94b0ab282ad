import ExpectedDamage.Number.Fault
import ExpectedDamage.Text.DecimalDigit
/-!
# Whole numbers in texts

A whole number in a text has a bounded number of digits, whether it is read or written.
The digits that stand in the text count, so zeros in front do, and a sign does not. A
number that is written stays within the bound of the reader.
-/

namespace ExpectedDamage.WholeText

def digitLimit : Nat := 4300

def value? (digits : List Char) : Except ArithmeticFault Nat :=
  if digits.length ≤ digitLimit then .ok (Text.digitsValue digits) else .error .tooLong

/-- The decimal digits of a whole number, after a minus sign if it is negative. -/
def chars (n : Int) : List Char :=
  if n < 0 then '-' :: Nat.toDigits 10 n.natAbs else Nat.toDigits 10 n.natAbs

/-- A whole number that has no more digits than a text may have. -/
def Fits (n : Int) : Prop := (Nat.toDigits 10 n.natAbs).length ≤ digitLimit

instance (n : Int) : Decidable (Fits n) := inferInstanceAs (Decidable (_ ≤ _))

/-- A text, or anything else that shows some whole numbers, unless one has too many
digits. -/
def showing? {α : Type} (numbers : List Int) (shown : α) : Except ArithmeticFault α :=
  if ∀ n ∈ numbers, Fits n then .ok shown else .error .tooLong

theorem value?_eq_ok_iff {digits : List Char} {n : Nat} :
    value? digits = .ok n ↔ digits.length ≤ digitLimit ∧ Text.digitsValue digits = n := by
  unfold value?
  split
  · next h => exact ⟨fun e => ⟨h, Except.ok.inj e⟩, fun e => congrArg Except.ok e.2⟩
  · next h => exact ⟨nofun, fun e => absurd e.1 h⟩

/-- The digits of a number that fits can be read. -/
theorem value?_toDigits {n : Int} (h : Fits n) :
    value? (Nat.toDigits 10 n.natAbs) = .ok (Text.digitsValue (Nat.toDigits 10 n.natAbs)) :=
  value?_eq_ok_iff.2 ⟨h, rfl⟩

/-- What shows numbers fails exactly on a number that does not fit. -/
theorem showing?_eq_ok_iff {α : Type} {numbers : List Int} {shown result : α} :
    showing? numbers shown = .ok result ↔ (∀ n ∈ numbers, Fits n) ∧ shown = result := by
  unfold showing?
  split
  · next h => exact ⟨fun e => ⟨h, Except.ok.inj e⟩, fun e => congrArg Except.ok e.2⟩
  · next h => exact ⟨nofun, fun e => absurd e.1 h⟩

end ExpectedDamage.WholeText
