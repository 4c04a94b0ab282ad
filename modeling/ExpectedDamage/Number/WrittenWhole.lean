import ExpectedDamage.Number.WholeText
import ExpectedDamage.Number.WrittenDecimal
/-!
# Whole numbers as written

A whole number is plain if it is an optional minus and digits without a zero in
front. The text of a record or of an argument need not be plain: white space and a sign
come off it, then the zeros in front, then a fraction of zeros, then the underscores
that group digits, and a minus is put back at last. A digit must follow the sign. A zero
in front is passed over together with the underscores and zeros behind it, whatever
number follows, so a minus may stand there as well, unless one is put back.
-/

namespace ExpectedDamage.WrittenWhole

open WrittenDecimal (takeSign signedValue ungrouped?)

/-- Why a text is not read as a whole number. -/
inductive Fault where
  | unreadable
  | tooLong
  deriving DecidableEq, Repr

/-- The most characters of a plain number; here a minus counts like a digit. -/
def lengthLimit : Nat := WholeText.digitLimit

def plain (text : List Char) : Except Fault Int :=
  let (negative, body) :=
    match text with
    | '-' :: rest => (true, rest)
    | rest => (false, rest)
  let (digits, rest) := body.span Char.isDigit
  if digits.isEmpty || (digits.head? == some '0' && digits.length ≠ 1) then .error .unreadable
  else if lengthLimit < digits.length + negative.toNat then .error .tooLong
  else if rest.isEmpty then .ok (signedValue negative digits)
  else .error .unreadable

/-- What is left behind zeros and underscores, the last of which is given. It stays in
front of a point and at the end. -/
def behindZeros? (last : Char) : List Char → Option (List Char)
  | [] => some [last]
  | c :: rest =>
    if c = '0' || c = '_' then behindZeros? c rest
    else if c = '.' then some (last :: c :: rest)
    else if c = '-' || c.isDigit then some (c :: rest)
    else none

/-- The text without the zeros in front, if it begins with a digit. -/
def withoutZeros? : List Char → Option (List Char)
  | [] => none
  | c :: rest =>
    if c = '0' then behindZeros? c rest
    else if c.isDigit then some (c :: rest)
    else none

/-- The text without a fraction, if that is one or more zeros. -/
def withoutFraction (text : List Char) : List Char :=
  match text.span (· ≠ '.') with
  | (whole, _ :: fraction) =>
    if !fraction.isEmpty && fraction.all (· = '0') then whole else text
  | _ => text

/-- The whole number in a text of a record or of an argument. -/
def generous (text : List Char) : Except Fault Int :=
  let (negative, body) := takeSign (Text.trimOf Text.isWhiteSpace text)
  match withoutZeros? body with
  | some digits =>
    let number := withoutFraction digits
    let number := (ungrouped? number).getD number
    plain (if negative then '-' :: number else number)
  | none => .error .unreadable

end ExpectedDamage.WrittenWhole
