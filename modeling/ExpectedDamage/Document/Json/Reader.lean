import ExpectedDamage.Document.Cursor
import ExpectedDamage.Keyed
import ExpectedDamage.Number.WholeText
import ExpectedDamage.Number.WrittenDecimal
import ExpectedDamage.Record.Value
/-!
# Reading JSON

JSON with three additions: the words `NaN`, `Infinity` and `-Infinity` are numbers,
a number with a fraction or an exponent is a binary64 number however large, and of
two equal keys the later value counts. A fault names its place, and the first fault
from the left is reported. A whole number with too many digits ends the reading as well,
but is no fault of the document.

The readers of nested values recurse on a bound that the length of the text gives:
every step into a value takes at least one character.
-/

namespace ExpectedDamage.Document.Json

open Record

/-- What a text lacks to be a JSON document. -/
inductive FaultKind where
  | value
  | key
  | colon
  | comma
  | extraData
  | byteOrderMark
  | unterminatedString
  | escape
  | unicodeEscape
  | controlCharacter
  deriving DecidableEq, Repr

def FaultKind.message : FaultKind → String
  | value => "Expecting value"
  | key => "Expecting property name enclosed in double quotes"
  | colon => "Expecting ':' delimiter"
  | comma => "Expecting ',' delimiter"
  | extraData => "Extra data"
  | byteOrderMark => "Unexpected UTF-8 BOM (decode using utf-8-sig)"
  | unterminatedString => "Unterminated string starting at"
  | escape => "Invalid \\escape"
  | unicodeEscape => "Invalid \\uXXXX escape"
  | controlCharacter => "Invalid control character at"

/-- A fault and its place. -/
structure Fault where
  kind : FaultKind
  place : Nat
  deriving DecidableEq, Repr

/-- Why a document is not read. -/
inductive Refusal where
  | malformed (fault : Fault)
  | arithmetic (fault : ArithmeticFault)
  deriving DecidableEq, Repr

def lacking {α : Type} (kind : FaultKind) (place : Nat) : Except Refusal α :=
  .error (.malformed ⟨kind, place⟩)

def Fault.message (f : Fault) (document : List Char) : String :=
  let (line, column) := lineAndColumn document f.place
  f.kind.message ++ ": line " ++ toString line ++ " column " ++ toString column
    ++ " (char " ++ toString f.place ++ ")"

def isSpace (c : Char) : Bool := c = ' ' || c = '\t' || c = '\n' || c = '\r'

def hexValue? (c : Char) : Option Nat :=
  if c.isDigit then some (c.toNat - '0'.toNat)
  else if 'a' ≤ c ∧ c ≤ 'f' then some (c.toNat - 'a'.toNat + 10)
  else if 'A' ≤ c ∧ c ≤ 'F' then some (c.toNat - 'A'.toNat + 10)
  else none

/-- The number of four hexadecimal digits at the beginning of a text. -/
def hexQuad? : List Char → Option Nat
  | a :: b :: c :: d :: _ => do
    let values ← [a, b, c, d].mapM hexValue?
    return values.foldl (fun number value => 16 * number + value) 0
  | _ => none

def escaped? : Char → Option Char
  | '"' => some '"'
  | '\\' => some '\\'
  | '/' => some '/'
  | 'b' => some '\x08'
  | 'f' => some '\x0c'
  | 'n' => some '\n'
  | 'r' => some '\r'
  | 't' => some '\t'
  | _ => none

def isHighSurrogate (n : Nat) : Bool := 0xD800 ≤ n && n < 0xDC00

def isLowSurrogate (n : Nat) : Bool := 0xDC00 ≤ n && n < 0xE000

/-- The character of a code; a surrogate that stands alone has none of its own. -/
def ofCode (n : Nat) : Char := if h : n.isValidChar then Char.ofNatAux n h else '\uFFFD'

/-- The low surrogate in an escape at the beginning of a text, which must have a
character after it. -/
def lowSurrogate? : List Char → Option Nat
  | '\\' :: 'u' :: rest =>
    if rest.length ≤ 4 then none else (hexQuad? rest).filter isLowSurrogate
  | _ => none

/-- The character of an escape of four digits, after the letter, and the size of the
escape without the letter: a pair of surrogates is one character. -/
def unicodeEscape? (text : List Char) : Option (Char × Nat) :=
  if text.length ≤ 4 then none
  else
    (hexQuad? text).map fun high =>
      if isHighSurrogate high then
        match lowSurrogate? (text.drop 4) with
        | some low => (ofCode (0x10000 + (high - 0xD800) * 0x400 + (low - 0xDC00)), 10)
        | none => (ofCode high, 4)
      else (ofCode high, 4)

/-- A character of a string or its end, and the size of what was read. -/
def stringPiece? (start place : Nat) : List Char → Except Refusal (Option Char × Nat)
  | [] => lacking .unterminatedString start
  | '"' :: _ => .ok (none, 1)
  | '\\' :: [] => lacking .unterminatedString start
  | '\\' :: 'u' :: rest =>
    match unicodeEscape? rest with
    | some (c, size) => .ok (some c, size + 2)
    | none => lacking .unicodeEscape (place + 1)
  | '\\' :: c :: _ =>
    match escaped? c with
    | some e => .ok (some e, 2)
    | none => lacking .escape place
  | c :: _ => if c.toNat < 32 then lacking .controlCharacter place else .ok (some c, 1)

/-- The rest of a string whose opening quote stands at `start`. The characters read so
far are kept in reverse. -/
def readString (start : Nat) (read : List Char) : Nat → Cursor → Except Refusal (String × Cursor)
  | 0, _ => lacking .unterminatedString start
  | bound + 1, c =>
    match stringPiece? start c.place c.rest with
    | .error refusal => .error refusal
    | .ok (none, size) => .ok (String.ofList read.reverse, c.advance size)
    | .ok (some char, size) => readString start (char :: read) bound (c.advance size)

/-- The exponent of a number, if there is a whole one. -/
def exponentAt? (c : Cursor) : Option (Int × Cursor) :=
  (WrittenDecimal.takeExponent? c.rest).map fun (exponent, rest) =>
    (exponent, ⟨rest, c.place + (c.rest.length - rest.length)⟩)

/-- The fraction of a number, if there is a point with digits after it. -/
def fractionAt? (c : Cursor) : Option (List Char × Cursor) :=
  match c.rest with
  | '.' :: d :: _ => if d.isDigit then some ((c.advance 1).takeWhile Char.isDigit) else none
  | _ => none

/-- A number: without a fraction and an exponent it is a whole one. -/
def readNumber (c : Cursor) : Except Refusal (Value × Cursor) :=
  let negative := c.rest.head? == some '-'
  let start := if negative then c.advance 1 else c
  let digits : Option (List Char × Cursor) :=
    match start.rest with
    | '0' :: _ => some (['0'], start.advance 1)
    | d :: _ => if d.isDigit then some (start.takeWhile Char.isDigit) else none
    | [] => none
  match digits with
  | none => lacking .value c.place
  | some (whole, afterWhole) =>
    let (fraction, afterFraction) := (fractionAt? afterWhole).getD ([], afterWhole)
    match exponentAt? afterFraction with
    | some (exponent, last) =>
      .ok (.real (WrittenDecimal.value ⟨negative, whole, fraction, exponent⟩), last)
    | none =>
      if fraction.isEmpty then
        match WholeText.value? whole with
        | .ok size => .ok (.int (if negative then -(size : Int) else size), afterWhole)
        | .error fault => .error (.arithmetic fault)
      else .ok (.real (WrittenDecimal.value ⟨negative, whole, fraction, 0⟩), afterFraction)

def words : List (String × Value) :=
  [("null", .null), ("true", .bool true), ("false", .bool false), ("NaN", .real .notANumber),
   ("Infinity", .real (.infinite false)), ("-Infinity", .real (.infinite true))]

def wordAt? (c : Cursor) : Option (Value × Cursor) :=
  words.findSome? fun (word, value) => (c.after? word).map fun rest => (value, rest)

mutual

def readValue : Nat → Cursor → Except Refusal (Value × Cursor)
  | 0, c => lacking .value c.place
  | bound + 1, c =>
    match c.rest with
    | '"' :: _ => do
      let (text, last) ← readString c.place [] c.rest.length (c.advance 1)
      return (.text text, last)
    | '[' :: _ =>
      let inside := (c.advance 1).skipWhile isSpace
      match inside.rest with
      | ']' :: _ => .ok (.list [], inside.advance 1)
      | _ => do
        let (items, last) ← readItems bound inside
        return (.list items, last)
    | '\x7b' :: _ =>
      let inside := (c.advance 1).skipWhile isSpace
      match inside.rest with
      | '\x7d' :: _ => .ok (.object [], inside.advance 1)
      | _ => do
        let (fields, last) ← readFields [] bound inside
        return (.object fields, last)
    | _ =>
      match wordAt? c with
      | some found => .ok found
      | none => readNumber c

def readItems : Nat → Cursor → Except Refusal (List Value × Cursor)
  | 0, c => lacking .value c.place
  | bound + 1, c => do
    let (value, last) ← readValue bound c
    let last := last.skipWhile isSpace
    match last.rest with
    | ']' :: _ => return ([value], last.advance 1)
    | ',' :: _ =>
      let (items, last) ← readItems bound ((last.advance 1).skipWhile isSpace)
      return (value :: items, last)
    | _ => lacking .comma last.place

/-- The fields of an object up to its closing brace, after those already read. -/
def readFields (fields : List (String × Value)) :
    Nat → Cursor → Except Refusal (List (String × Value) × Cursor)
  | 0, c => lacking .key c.place
  | bound + 1, c =>
    match c.rest with
    | '"' :: _ => do
      let (key, last) ← readString c.place [] c.rest.length (c.advance 1)
      let last := last.skipWhile isSpace
      match last.rest with
      | ':' :: _ =>
        let (value, last) ← readValue bound ((last.advance 1).skipWhile isSpace)
        let last := last.skipWhile isSpace
        let fields := Keyed.insert key value fields
        match last.rest with
        | '\x7d' :: _ => return (fields, last.advance 1)
        | ',' :: _ => readFields fields bound ((last.advance 1).skipWhile isSpace)
        | _ => lacking .comma last.place
      | _ => lacking .colon last.place
    | _ => lacking .key c.place

end

def read (document : List Char) : Except Refusal Value := do
  if document.head? = some '\uFEFF' then lacking .byteOrderMark 0
  let (value, last) ←
    readValue (2 * document.length + 1) ((Cursor.ofText document).skipWhile isSpace)
  let last := last.skipWhile isSpace
  if last.rest.isEmpty then return value else lacking .extraData last.place

end ExpectedDamage.Document.Json
