/-!
# Looking for wordings in a text

A wording is a partial function on texts: it looks at the beginning only, and
answers what it found there. `firstIn?` tries it at every place from the left.
A gap of a bounded number of characters is the list of the places that it can
lead to, which never lie beyond the end of a line.
-/

namespace ExpectedDamage.Text

/-- The rest of a text that begins with a word. -/
def after? : List Char → List Char → Option (List Char)
  | [], text => some text
  | _ :: _, [] => none
  | w :: word, c :: text => if w = c then after? word text else none

/-- The rest of a text that begins with one of the words, the first that fits. -/
def afterAny? (words : List String) (text : List Char) : Option (List Char) :=
  words.findSome? fun word => after? word.toList text

/-- What a wording finds at the leftmost place where it finds anything. -/
def firstIn? {α : Type} (wording : List Char → Option α) : List Char → Option α
  | [] => wording []
  | c :: cs =>
    match wording (c :: cs) with
    | some found => some found
    | none => firstIn? wording cs

def contains (word : String) (text : List Char) : Bool :=
  (firstIn? (after? word.toList) text).isSome

/-- The places that at most `n` characters of the same line lead to, the nearest
first. -/
def placesWithin : Nat → List Char → List (List Char)
  | 0, text => [text]
  | _ + 1, [] => [[]]
  | n + 1, c :: cs => if c = '\n' then [c :: cs] else (c :: cs) :: placesWithin n cs

/-- The places that the rest of the line leads to, the nearest first. -/
def placesOnLine (text : List Char) : List (List Char) := placesWithin text.length text

end ExpectedDamage.Text
