import ExpectedDamage.Document.Json.Reader
import ExpectedDamage.Number.WholeText
import ExpectedDamage.Text.Split
/-!
# Plain scalars of YAML

A plain scalar is a text, unless it is spelled like nothing, a truth value, a number or
a moment. Numbers may be grouped by underscores, whole ones also written in other
bases; an exponent counts only with a point and a sign. The digits of a whole number are
bounded in base ten only. A scalar with too many of them, or with no digit behind the
mark of its base, is spelled like a number and cannot be read; one that is spelled like a
moment cannot be read if there is no such day or time.
-/

namespace ExpectedDamage.Document.Yaml

open Record

def nullWords : List String := ["", "~", "null", "Null", "NULL"]

def trueWords : List String := ["yes", "Yes", "YES", "true", "True", "TRUE", "on", "On", "ON"]

def falseWords : List String := ["no", "No", "NO", "false", "False", "FALSE", "off", "Off", "OFF"]

/-- The value of digits in a base, the most significant first; marks between them are
passed over. -/
def valueInBase (base : Nat) (digits : List Char) : Nat :=
  (digits.filterMap Json.hexValue?).foldl (fun value d => base * value + d) 0

/-- Whether a text is not empty and holds digits below a base and underscores only. -/
def inBase (base : Nat) (text : List Char) : Bool :=
  !text.isEmpty && text.all fun c => c = '_' || (Json.hexValue? c).any (· < base)

/-- Whether a text is a digit followed by digits and underscores. -/
def isGrouped (text : List Char) : Bool :=
  (text.head?).any Char.isDigit && inBase 10 text

/-- Whether a part after a colon is a number below sixty. -/
def isSixtieth (text : List Char) : Bool :=
  match text with
  | [c] => c.isDigit
  | [a, b] => '0' ≤ a && a ≤ '5' && b.isDigit
  | _ => false

def markedValue? (base : Nat) (digits : List Char) : Except ArithmeticFault Nat :=
  if digits.all (· = '_') then .error .notANumber else .ok (valueInBase base digits)

/-- The value of digits in base ten; marks between them are passed over. -/
def groupedValue? (digits : List Char) : Except ArithmeticFault Nat :=
  WholeText.value? (digits.filter Char.isDigit)

/-- A whole number without a sign, if the text is spelled like one; parts between colons
are sixtieths. -/
def magnitude? (text : List Char) : Option (Except ArithmeticFault Nat) :=
  match text with
  | ['0'] => some (.ok 0)
  | '0' :: 'b' :: bits => if inBase 2 bits then some (markedValue? 2 bits) else none
  | '0' :: 'x' :: digits => if inBase 16 digits then some (markedValue? 16 digits) else none
  | '0' :: digits => if inBase 8 digits then some (.ok (valueInBase 8 digits)) else none
  | text =>
    if isGrouped text then some (groupedValue? text)
    else
      match Text.partsBetween ':' text with
      | first :: second :: rest =>
        if isGrouped first && (second :: rest).all isSixtieth then
          some ((groupedValue? first).map fun value =>
            (second :: rest).foldl (fun value part => 60 * value + valueInBase 10 part) value)
        else none
      | _ => none

/-- The whole number that a plain scalar spells, if it is spelled like one. -/
def whole? (text : List Char) : Option (Except ArithmeticFault Int) :=
  match text with
  | '-' :: rest => (magnitude? rest).map fun read => read.map fun n => -(n : Int)
  | '+' :: rest => (magnitude? rest).map fun read => read.map Int.ofNat
  | rest => (magnitude? rest).map fun read => read.map Int.ofNat

/-- The exponent at the end of a number, if it has a sign, or none at all. -/
def exponent? : List Char → Option Int
  | [] => some 0
  | e :: sign :: digits =>
    if (e = 'e' || e = 'E') && (sign = '+' || sign = '-') && !digits.isEmpty
        && digits.all Char.isDigit then
      some (WrittenDecimal.signedValue (sign = '-') digits)
    else none
  | _ => none

/-- Whether a character may stand among the digits of a number. -/
def isPlace (c : Char) : Bool := c.isDigit || c = '_'

/-- The number of some digits and a fraction, without the underscores. -/
def decimalValue (negative : Bool) (whole fraction : List Char) (exponent : Int) : Binary64 :=
  WrittenDecimal.value
    ⟨negative, whole.filter Char.isDigit, fraction.filter Char.isDigit, exponent⟩

/-- The sum of numbers each of which counts sixty times as much as the one before it. -/
def sixtiethSum : Int → Binary64 → List Binary64 → Binary64
  | _, sum, [] => sum
  | weight, sum, x :: rest =>
    sixtiethSum (60 * weight) (sum + x * Binary64.quotient weight 1) rest

/-- The number of parts between colons, which are sixtieths; the last one has a fraction. -/
def sixtieths? (text : List Char) : Option Binary64 :=
  match (Text.partsBetween ':' text).reverse with
  | last :: second :: others =>
    let (whole, rest) := last.span (· ≠ '.')
    let higher := second :: others
    match rest, higher.getLast? with
    | _ :: fraction, some first =>
      if isSixtieth whole && fraction.all isPlace && higher.dropLast.all isSixtieth
          && isGrouped first then
        some (sixtiethSum 1 0 (decimalValue false whole fraction 0
          :: higher.map fun part => decimalValue false part [] 0))
      else none
    | _, _ => none
  | _ => none

/-- The binary64 number that a plain scalar spells. -/
def real? (text : List Char) : Option Binary64 :=
  let (negative, body) := WrittenDecimal.takeSign text
  let word := String.ofList body
  if [".inf", ".Inf", ".INF"].contains word then some (.infinite negative)
  else if [".nan", ".NaN", ".NAN"].contains (String.ofList text) then some .notANumber
  else
    let (whole, rest) := body.span isPlace
    match rest with
    | '.' :: rest =>
      let (fraction, rest) := rest.span isPlace
      let wellFormed :=
        if whole.isEmpty then body.length = text.length && (fraction.head?).any Char.isDigit
        else isGrouped whole
      if wellFormed then (exponent? rest).map (decimalValue negative whole fraction)
      else none
    | ':' :: _ => (sixtieths? body).map fun x => if negative then -x else x
    | _ => none

/-- The number of the digits at the beginning of a text, and the rest, if there are as many
digits as allowed. -/
def digitsAt? (least most : Nat) (text : List Char) : Option (Nat × List Char) :=
  let (digits, rest) := text.span Char.isDigit
  if least ≤ digits.length ∧ digits.length ≤ most then some (Text.digitsValue digits, rest)
  else none

/-- The rest of a text that begins with a character. -/
def afterMark? (mark : Char) : List Char → Option (List Char)
  | c :: rest => if c = mark then some rest else none
  | [] => none

/-- Whether a calendar has the day. -/
def isDay (year month day : Nat) : Bool :=
  let isLeap := year % 4 = 0 && (year % 100 ≠ 0 || year % 400 = 0)
  let length :=
    match month with
    | 2 => if isLeap then 29 else 28
    | 4 | 6 | 9 | 11 => 30
    | _ => 31
  1 ≤ year && 1 ≤ month && month ≤ 12 && 1 ≤ day && day ≤ length

/-- Whether there is the zone, in hours and minutes from the mean time, that a text spells, if it
is spelled like one. Without a text it is left open. -/
def isZone? : List Char → Option Bool
  | [] | ['Z'] => some true
  | sign :: text => do
    guard (sign = '+' || sign = '-')
    let (hours, rest) ← digitsAt? 1 2 text
    if rest.isEmpty then return hours < 24
    let (minutes, rest) ← digitsAt? 2 2 (← afterMark? ':' rest)
    guard rest.isEmpty
    return 60 * hours + minutes < 1440

/-- Whether there is the time of a day that a text spells, if it is spelled like one. -/
def isTime? (text : List Char) : Option Bool := do
  let (hour, rest) ← digitsAt? 1 2 text
  let (minute, rest) ← digitsAt? 2 2 (← afterMark? ':' rest)
  let (second, rest) ← digitsAt? 2 2 (← afterMark? ':' rest)
  let zone :=
    match rest with
    | '.' :: fraction => fraction.dropWhile Char.isDigit
    | rest => rest
  let hasZone ← isZone? (zone.dropWhile fun c => c = ' ' || c = '\t')
  return hour < 24 && minute < 60 && second < 60 && hasZone

/-- Whether there is the moment that a plain scalar spells, if it is spelled like one: a day
with two digits for the month and two for the day, or a day and a time. -/
def isMoment? (text : List Char) : Option Bool := do
  let (year, rest) ← digitsAt? 4 4 text
  let monthText ← afterMark? '-' rest
  let (month, rest) ← digitsAt? 1 2 monthText
  let dayText ← afterMark? '-' rest
  let (day, rest) ← digitsAt? 1 2 dayText
  match rest with
  | [] =>
    guard (text.length = 10)
    return isDay year month day
  | c :: time =>
    guard (c = 'T' || c = 't' || c = ' ' || c = '\t')
    let blanks := if c = ' ' || c = '\t' then time.dropWhile fun c => c = ' ' || c = '\t' else time
    return (← isTime? blanks) && isDay year month day

def plainValue? (text : String) : Except ArithmeticFault Value :=
  if nullWords.contains text then .ok .null
  else if trueWords.contains text then .ok (.bool true)
  else if falseWords.contains text then .ok (.bool false)
  else
    match real? text.toList, whole? text.toList with
    | some x, _ => .ok (.real x)
    | none, some read => read.map .int
    | none, none =>
      match isMoment? text.toList with
      | some true => .ok .other
      | some false => .error .notANumber
      | none => .ok (.text text)

end ExpectedDamage.Document.Yaml
