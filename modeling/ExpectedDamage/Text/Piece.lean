import ExpectedDamage.Text.DecimalDigit
/-!
# Pieces of a text

A text is a row of numbers and of marks: a number is a maximal run of decimal
digits, a mark is any other character. Numbers in a wording are always such
maximal runs, so wordings about numbers are patterns on pieces.
-/

namespace ExpectedDamage.Text

/-- A run of digits or a single other character. -/
inductive Piece where
  | number (digits : List Char)
  | mark (c : Char)
  deriving DecidableEq, Repr

namespace Piece

def ofText : List Char → List Piece
  | [] => []
  | c :: cs =>
    if isDigit c then
      match ofText cs with
      | .number digits :: rest => .number (c :: digits) :: rest
      | rest => .number [c] :: rest
    else .mark c :: ofText cs

def text : Piece → List Char
  | .number digits => digits
  | .mark c => [c]

end Piece

/-- The number at the beginning of a text, as the longest run of digits, and the
rest of the text. -/
def leadingNumber? (text : List Char) : Option (List Char × List Char) :=
  match text.span isDigit with
  | ([], _) => none
  | found => some found

/-- The numbers of a row of pieces, each with the text after it. -/
def numbersOf : List Piece → List (List Char × List Char)
  | [] => []
  | .number digits :: rest => (digits, rest.flatMap Piece.text) :: numbersOf rest
  | .mark _ :: rest => numbersOf rest

/-- The numbers of a text from left to right, each with the text after it. -/
def numbers (text : List Char) : List (List Char × List Char) := numbersOf (Piece.ofText text)

/-- The matches of a recogniser from left to right, each looked for after the end
of the one before. The recogniser looks at the beginning of a list and answers
what it found and how many items that took; `skipped` items are still part of the
match before. -/
def matchesFrom {α β : Type} (recognise : List α → Option (β × Nat)) (skipped : Nat) :
    List α → List β
  | [] => []
  | x :: xs =>
    match skipped with
    | n + 1 => matchesFrom recognise n xs
    | 0 =>
      match recognise (x :: xs) with
      | some (found, size) => found :: matchesFrom recognise (size - 1) xs
      | none => matchesFrom recognise 0 xs

def allMatches {α β : Type} (recognise : List α → Option (β × Nat)) (items : List α) : List β :=
  matchesFrom recognise 0 items

end ExpectedDamage.Text
