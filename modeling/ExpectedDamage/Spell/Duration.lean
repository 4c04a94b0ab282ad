import ExpectedDamage.Number.WholeText
import ExpectedDamage.Text.Blank
import ExpectedDamage.Text.Lowercase
import ExpectedDamage.Text.Piece
import ExpectedDamage.Text.Search
import ExpectedDamage.Text.Word
/-!
# Durations in rounds

How long a spell lasts in a fight. A minute has ten rounds; a fight is not taken to
last longer than a hundred, and a spell that needs concentration for longer than
that is taken to last ten.
-/

namespace ExpectedDamage.Spell

open Text

/-- The text after blanks, if it begins with a word. -/
def afterBlanks? (word : String) (text : List Char) : Option (List Char) :=
  after? word.toList (text.dropWhile isBlank)

/-- The digits of the first number in front of a word. -/
def numberOf? (word : String) (text : List Char) : Option (List Char) :=
  (numbers text).findSome? fun (digits, rest) => (afterBlanks? word rest).map fun _ => digits

def speaksOfOneRound (text : List Char) : Bool :=
  (numbers text).any fun (digits, rest) =>
    digits == ['1'] && (afterBlanks? "round" rest).any endsWord

/-- The rounds that a duration in lower case stands for. -/
def roundsOf? (text : List Char) : Except ArithmeticFault Nat :=
  if contains "instantaneous" text || speaksOfOneRound text then .ok 1
  else
    match numberOf? "minute" text, numberOf? "round" text with
    | some minutes, _ => (fun n => min (n * 10) 100) <$> WholeText.value? minutes
    | none, some rounds => WholeText.value? rounds
    | none, none => .ok (if contains "concentration" text then 10 else 1)

/-- The rounds that a duration stands for, one if there is none. -/
def rounds? (duration : Option String) : Except ArithmeticFault Nat :=
  match duration with
  | some text => roundsOf? (lower text.toList)
  | none => .ok 1

end ExpectedDamage.Spell
