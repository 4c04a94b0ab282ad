import ExpectedDamage.Number.Binary64
import ExpectedDamage.Text.Blank
import ExpectedDamage.Text.DecimalDigit
import ExpectedDamage.Text.Split
/-!
# Decimals as written

The parts of a decimal in a text. The grammars of documents and arguments differ
in the texts that they take for a number, but not in its value: `value` is the
binary64 number nearest to the exact decimal.
-/

namespace ExpectedDamage

/-- A decimal as written: its sign, its digits before and after the point, and its
exponent. -/
structure WrittenDecimal where
  negative : Bool
  whole : List Char
  fraction : List Char
  exponent : Int
  deriving DecidableEq, Repr

namespace WrittenDecimal

/-- The number nearest to the decimal. -/
def value (w : WrittenDecimal) : Binary64 :=
  .ofDecimal w.negative (Text.digitsValue (w.whole ++ w.fraction)) (w.exponent - w.fraction.length)

/-- The sign at the beginning of a text, negative or not, and the rest. -/
def takeSign : List Char → Bool × List Char
  | '-' :: rest => (true, rest)
  | '+' :: rest => (false, rest)
  | rest => (false, rest)

def signedValue (negative : Bool) (digits : List Char) : Int :=
  if negative then -(Text.digitsValue digits : Int) else Text.digitsValue digits

/-- The exponent at the beginning of a text, and the rest: a letter, an optional
sign and at least one digit. -/
def takeExponent? : List Char → Option (Int × List Char)
  | c :: rest =>
    if c = 'e' || c = 'E' then
      let (negative, afterSign) := takeSign rest
      match afterSign.span Char.isDigit with
      | ([], _) => none
      | (digits, rest) => some (signedValue negative digits, rest)
    else none
  | [] => none

/-- The number in a text: a decimal with a digit on one side of the point at least,
the word for infinity, or the word for no number. -/
def number? (text : List Char) : Option Binary64 :=
  let (negative, body) := takeSign text
  let word := String.ofList (body.map Char.toLower)
  if word = "inf" || word = "infinity" then some (.infinite negative)
  else if word = "nan" then some .notANumber
  else
    let (whole, afterWhole) := body.span Char.isDigit
    let (fraction, rest) :=
      match afterWhole with
      | '.' :: digits => digits.span Char.isDigit
      | rest => ([], rest)
    if whole.isEmpty && fraction.isEmpty then none
    else if rest.isEmpty then some (value ⟨negative, whole, fraction, 0⟩)
    else
      match takeExponent? rest with
      | some (exponent, []) => some (value ⟨negative, whole, fraction, exponent⟩)
      | _ => none

/-- The text without the underscores that group its digits, if each of them stands alone
between other characters. -/
def ungrouped? (text : List Char) : Option (List Char) :=
  let groups := Text.partsBetween '_' text
  if groups.all (!·.isEmpty) then some groups.flatten else none

/-- The number in a text as a record gives it: without the white space around it, or with
grouped digits and nothing around it. -/
def generousNumber? (text : List Char) : Option Binary64 :=
  (number? (Text.trimOf Text.isWhiteSpace text)).or ((ungrouped? text).bind number?)

end WrittenDecimal

end ExpectedDamage
