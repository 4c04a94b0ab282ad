import ExpectedDamage.Text.Blank
import ExpectedDamage.Text.Piece
import ExpectedDamage.Text.Search
import ExpectedDamage.Text.WordCharacter
/-!
# Wordings of areas and counts

How descriptions, in lower case, speak of areas and of numbers of targets. Sizes
are written as "20-foot-radius" or "20 foot radius", where a size is always a
maximal run of digits, except behind a gap (`radiusAfterGap?`): a gap takes as
many characters as it can and leaves only the end of the run. Sizes are answered as
they are written.
-/

namespace ExpectedDamage.Area

open Text

/-- The rest of a text after a hyphen or a space and a word. -/
def afterJoined? (word : String) : List Char → Option (List Char)
  | '-' :: rest | ' ' :: rest => after? word.toList rest
  | _ => none

/-- The digits of a number with "foot", and what follows. -/
def feet? (text : List Char) : Option (List Char × List Char) := do
  let (size, rest) ← leadingNumber? text
  let rest ← afterJoined? "foot" rest
  return (size, rest)

/-- The digits of a number with "foot" and a noun, and what follows. -/
def sizedAhead? (noun : String) (text : List Char) : Option (List Char × List Char) := do
  let (size, rest) ← feet? text
  let rest ← afterJoined? noun rest
  return (size, rest)

/-- The size of the first "20-foot noun". -/
def sized? (noun : String) (text : List Char) : Option (List Char) :=
  firstIn? (fun place => (sizedAhead? noun place).map Prod.fst) text

def anyAhead (words : List String) (places : List (List Char)) : Bool :=
  places.any fun place => (afterAny? words place).isSome

/-- What speaks of height behind a radius. -/
def heightWords : List String := ["cylinder", "high"]

/-- What speaks of height in front of a radius. -/
def columnWords : List String := ["cylinder", "column"]

/-- Whether the text speaks of a radius and, near to it, of a height. -/
def speaksOfCylinder (text : List Char) : Bool :=
  (firstIn? (fun place => do
    let (_, rest) ← sizedAhead? "radius" place
    if anyAhead heightWords (placesWithin 30 rest) then some () else none) text).isSome
  || (firstIn? (fun place => do
    let rest ← afterAny? columnWords place
    (placesWithin 50 rest).findSome? (sizedAhead? "radius")) text).isSome

/-- A radius with a comma or a blank close behind it, and a height later on the line. -/
def radiusWithHeight? (text : List Char) : Option (List Char) := do
  let (size, rest) ← sizedAhead? "radius" text
  let isBreak (place : List Char) : Bool :=
    match place with
    | c :: later => (c = ',' || isBlank c) && anyAhead heightWords (placesOnLine later)
    | [] => false
  if (placesWithin 10 rest).any isBreak then some size else none

/-- A column and the last radius behind a gap of at most thirty characters. -/
def radiusAfterGap? (text : List Char) : Option (List Char) := do
  let rest ← afterAny? columnWords text
  (placesWithin 30 rest).reverse.findSome? fun place => (sizedAhead? "radius" place).map Prod.fst

def cylinderSize? (text : List Char) : Option (List Char) :=
  firstIn? radiusWithHeight? text <|> firstIn? radiusAfterGap? text

/-- The size of the first "to a distance of 20 feet". -/
def distance? (text : List Char) : Option (List Char) :=
  firstIn? (fun place => do
    let rest ← after? "to a distance of ".toList place
    let (size, rest) ← leadingNumber? rest
    let _ ← after? " feet".toList rest
    return size) text

/-- A number with "feet long", or "fee long". -/
def lengthAhead (text : List Char) : Bool :=
  match leadingNumber? text with
  | some (_, rest) => (afterJoined? "feet long" rest <|> afterJoined? "fee long" rest).isSome
  | none => false

/-- Whether the text speaks of a line: by its size, or by its length later on. -/
def speaksOfLine (text : List Char) : Bool :=
  (sized? "line" text).isSome
  || (firstIn? (fun place => do
    let rest ← after? "line".toList place
    if ((placesOnLine rest).drop 1).any lengthAhead then some () else none) text).isSome

/-- The first number of feet, or else the first number with "feet". -/
def lineSize? (text : List Char) : Option (List Char) :=
  firstIn? (fun place => (feet? place).map Prod.fst) text
    <|> firstIn? (fun place => do
      let (size, rest) ← leadingNumber? place
      let _ ← afterJoined? "feet" rest
      return size) text

/-- Whether the text speaks of a bolt that strikes: such a spell strikes a point, and a
radius in it is something else. -/
def strikesPoint (text : List Char) : Bool :=
  (firstIn? (fun place => do
    let rest ← after? "bolt".toList place
    if anyAhead ["flash", "strike", "hit"] (placesWithin 20 rest) then some () else none)
    text).isSome

def numberWords : List (String × Nat) :=
  [("two", 2), ("three", 3), ("four", 4), ("five", 5), ("six", 6)]

def projectileWords : List String := ["dart", "bolt", "beam", "ray", "missile"]

/-- The tails of a list, the whole list first. -/
def tails : List Char → List (List Char)
  | [] => [[]]
  | c :: cs => (c :: cs) :: tails cs

/-- Whether blanks, a word or none, and a projectile follow; the projectile may also be
the end of the word. -/
def projectileAhead (text : List Char) : Bool :=
  match text.span isBlank with
  | ([], _) => false
  | (_, rest) =>
    let (word, afterWord) := rest.span isWordCharacter
    anyAhead projectileWords ((tails word).map (· ++ afterWord))
    || anyAhead projectileWords [afterWord.dropWhile isBlank]

/-- The first number of projectiles. -/
def projectiles? (text : List Char) : Option Nat :=
  firstIn? (fun place => numberWords.findSome? fun (word, number) => do
    let rest ← after? word.toList place
    if projectileAhead rest then some number else none) text

/-- A number of creatures or targets: the smallest that the text names. -/
def countedCreatures? (text : List Char) : Option Nat :=
  (numberWords.take 3).findSome? fun (word, number) =>
    if contains (word ++ " creatures") text || contains (word ++ " targets") text then some number
    else none

end ExpectedDamage.Area
