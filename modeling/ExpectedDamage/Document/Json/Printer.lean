import ExpectedDamage.Number.Decimal
import ExpectedDamage.Number.WholeText
import ExpectedDamage.Record.Value
/-!
# Writing JSON

JSON in ASCII: every other character is written as an escape of four hexadecimal
digits, or two of them beyond the first 65536 characters. Numbers that are not
finite are written as the words that the reader knows, and a value that JSON has no word
for, which no record contains, as nothing. `text` writes any value; `text?` refuses one
with a whole number that has too many digits.
-/

namespace ExpectedDamage.Document.Json

open Record

/-- Four hexadecimal digits. -/
def hexQuad (n : Nat) : List Char :=
  let digits := Nat.toDigits 16 n
  List.replicate (4 - digits.length) '0' ++ digits

def stringChar (c : Char) : List Char :=
  if c = '"' || c = '\\' then ['\\', c]
  else if c = '\n' then ['\\', 'n']
  else if c = '\r' then ['\\', 'r']
  else if c = '\t' then ['\\', 't']
  else if c = '\x08' then ['\\', 'b']
  else if c = '\x0c' then ['\\', 'f']
  else if 32 ≤ c.toNat && c.toNat < 127 then [c]
  else if c.toNat < 0x10000 then '\\' :: 'u' :: hexQuad c.toNat
  else
    let offset := c.toNat - 0x10000
    '\\' :: 'u' :: hexQuad (0xD800 + offset / 0x400)
      ++ '\\' :: 'u' :: hexQuad (0xDC00 + offset % 0x400)

def stringText (s : String) : String :=
  "\"" ++ String.ofList (s.toList.flatMap stringChar) ++ "\""

/-- A number, finite or not. -/
def realText : Binary64 → String
  | .notANumber => "NaN"
  | .infinite negative => if negative then "-Infinity" else "Infinity"
  | x => x.text

/-- What stands between the parts of lists and objects. -/
structure Spacing where
  /-- The spaces that each level is indented by; none puts all on one line. -/
  indent : Option Nat
  colon : String

namespace Spacing

/-- One line without blanks. -/
def compact : Spacing := ⟨none, ":"⟩

/-- A line for each item, indented by two spaces for each level. -/
def indented : Spacing := ⟨some 2, ": "⟩

def lineBreak (s : Spacing) (level : Nat) : String :=
  match s.indent with
  | some width => "\n" ++ "".pushn ' ' (width * level)
  | none => ""

/-- Parts between brackets, at a level. -/
def enclose (s : Spacing) (level : Nat) (opening closing : String) (parts : List String) :
    String :=
  if parts.isEmpty then opening ++ closing
  else
    opening ++ s.lineBreak (level + 1) ++ ("," ++ s.lineBreak (level + 1)).intercalate parts
      ++ s.lineBreak level ++ closing

end Spacing

mutual

def textAt (s : Spacing) (level : Nat) : Value → String
  | .null | .other => "null"
  | .bool b => if b then "true" else "false"
  | .int n => toString n
  | .real x => realText x
  | .text t => stringText t
  | .list items => s.enclose level "[" "]" (itemTexts s (level + 1) items)
  | .object fields => s.enclose level "\x7b" "\x7d" (fieldTexts s (level + 1) fields)

def itemTexts (s : Spacing) (level : Nat) : List Value → List String
  | [] => []
  | v :: rest => textAt s level v :: itemTexts s level rest

def fieldTexts (s : Spacing) (level : Nat) : List (String × Value) → List String
  | [] => []
  | (key, v) :: rest =>
    (stringText key ++ s.colon ++ textAt s level v) :: fieldTexts s level rest

end

def text (s : Spacing) (v : Value) : String := textAt s 0 v

mutual

def wholes : Value → List Int
  | .int n => [n]
  | .list items => itemWholes items
  | .object fields => fieldWholes fields
  | _ => []

def itemWholes : List Value → List Int
  | [] => []
  | v :: rest => wholes v ++ itemWholes rest

def fieldWholes : List (String × Value) → List Int
  | [] => []
  | (_, v) :: rest => wholes v ++ fieldWholes rest

end

/-- The text of a value, unless one of its whole numbers has too many digits. -/
def text? (s : Spacing) (v : Value) : Except ArithmeticFault String :=
  WholeText.showing? (wholes v) (text s v)

end ExpectedDamage.Document.Json
