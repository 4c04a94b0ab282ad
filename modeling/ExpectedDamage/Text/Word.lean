import ExpectedDamage.Text.WordCharacter
/-!
# Words of a text

The maximal runs of word characters.
-/

namespace ExpectedDamage.Text

/-- The words of a text, after the beginning of a word that is still open. -/
def wordsFrom (opened : List Char) : List Char → List (List Char)
  | [] => if opened.isEmpty then [] else [opened]
  | c :: cs =>
    if isWordCharacter c then wordsFrom (opened ++ [c]) cs
    else if opened.isEmpty then wordsFrom [] cs
    else opened :: wordsFrom [] cs

def words (text : List Char) : List (List Char) := wordsFrom [] text

def endsWord : List Char → Bool
  | c :: _ => !isWordCharacter c
  | [] => true

end ExpectedDamage.Text
