import ExpectedDamage.Number.WrittenWhole
import ExpectedDamage.Record.Checked
import ExpectedDamage.Record.Value
/-!
# Reading single values

Records come from forms and exports, so a value is taken generously: a text that
spells a number is a number (`WrittenWhole.generous`), a whole number may be written
with a point, and several words mean yes and no. A text, on the other hand, is never
made out of anything else.
-/

namespace ExpectedDamage.Record

/-- A whole number between two bounds. -/
abbrev Between (low high : Int) := { n : Int // low ≤ n ∧ n ≤ high }

/-- A whole number that is not below a bound. -/
abbrev AtLeast (low : Int) := { n : Int // low ≤ n }

namespace Value

def asText : Value → Checked String
  | .text s => .ok s
  | _ => .fault .textExpected

/-- The whole numbers from minus this one on and below it fit into a word. -/
def wordLimit : Int := 9223372036854775808

/-- The whole number of a binary64 number without a fraction. It is taken if it lies
strictly between the limits of a word. -/
def wholeOfReal (x : Binary64) : Checked Int :=
  match x.floor?, x.ceil? with
  | .ok n, .ok m =>
    if n ≠ m then .fault .wholeFractional
    else if -wordLimit < n ∧ n < wordLimit then .ok n
    else .fault .wholeTooLarge
  | _, _ => .fault .notFinite

def asInt : Value → Checked Int
  | .int n => .ok n
  | .bool b => .ok (if b then 1 else 0)
  | .real x => wholeOfReal x
  | .text s =>
    match WrittenWhole.generous s.toList with
    | .ok n => .ok n
    | .error .unreadable => .fault .wholeUnreadable
    | .error .tooLong => .fault .wholeTooLarge
  | _ => .fault .wholeExpected

def asBetween (low high : Int) (v : Value) : Checked (Between low high) :=
  v.asInt.andThen fun n =>
    if h : low ≤ n ∧ n ≤ high then .ok ⟨n, h⟩
    else if n < low then .fault .tooSmall
    else .fault .tooLarge

def asAtLeast (low : Int) (v : Value) : Checked (AtLeast low) :=
  v.asInt.andThen fun n => if h : low ≤ n then .ok ⟨n, h⟩ else .fault .tooSmall

def asReal : Value → Checked Binary64
  | .real x => .ok x
  | .bool b => .ok (if b then 1 else 0)
  | .int n =>
    match Binary64.ofInt? n with
    | .ok x => .ok x
    | .error _ => .fault .realExpected
  | .text s =>
    match WrittenDecimal.generousNumber? s.toList with
    | some x => .ok x
    | none => .fault .realUnreadable
  | _ => .fault .realExpected

/-- The words for no, in small letters. -/
def noWords : List String := ["0", "off", "f", "false", "n", "no"]

/-- The words for yes, in small letters. -/
def yesWords : List String := ["1", "on", "t", "true", "y", "yes"]

/-- The truth value of a whole number that fits into a word. -/
def boolOfWord (n : Int) : Checked Bool :=
  if n = 0 then .ok false else if n = 1 then .ok true else .fault .boolUnreadable

def asBool : Value → Checked Bool
  | .bool b => .ok b
  | .int n =>
    if -wordLimit ≤ n ∧ n < wordLimit then boolOfWord n else .fault .boolExpected
  | .real x =>
    match wholeOfReal x with
    | .ok n => boolOfWord n
    | .refused _ => .fault .boolExpected
  | .text s =>
    let word := s.map Char.toLower
    if noWords.contains word then .ok false
    else if yesWords.contains word then .ok true
    else .fault .boolUnreadable
  | _ => .fault .boolExpected

/-- Nothing, or a value that is read. -/
def orNull {α : Type} (read : Value → Checked α) : Value → Checked (Option α)
  | .null => .ok none
  | v => some <$> read v

/-- Every item, under its place in the list. -/
def itemsFrom {α : Type} (read : Value → Checked α) (place : Nat) : List Value → Checked (List α)
  | [] => .ok []
  | v :: rest => List.cons <$> (read v).under (toString place) <*> itemsFrom read (place + 1) rest

def asList {α : Type} (read : Value → Checked α) : Value → Checked (List α)
  | .list items => itemsFrom read 0 items
  | _ => .fault .listExpected

/-- Every value, under its key. -/
def entries {α : Type} (read : Value → Checked α) :
    List (String × Value) → Checked (List (String × α))
  | [] => .ok []
  | (key, v) :: rest =>
    (fun a others => (key, a) :: others) <$> (read v).under key <*> entries read rest

def asObject {α : Type} (read : Value → Checked α) : Value → Checked (List (String × α))
  | .object fields => entries read fields
  | _ => .fault .objectExpected

/-- One of the given texts. -/
def asChoice {α : Type} (choice : String → Option α) : Value → Checked α
  | .text s =>
    match choice s with
    | some a => .ok a
    | none => .fault .notAChoice
  | _ => .fault .notAChoice

end Value

end ExpectedDamage.Record
