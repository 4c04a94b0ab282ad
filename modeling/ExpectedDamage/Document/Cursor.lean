/-!
# Places in a text

A reader of a document carries the rest of the text and the number of characters
before it, so that a fault can say where it is.
-/

namespace ExpectedDamage.Document

/-- The rest of a text and its place. -/
structure Cursor where
  rest : List Char
  place : Nat
  deriving DecidableEq, Repr

namespace Cursor

def ofText (text : List Char) : Cursor := ⟨text, 0⟩

/-- The cursor after a number of characters. -/
def advance (c : Cursor) (count : Nat) : Cursor := ⟨c.rest.drop count, c.place + count⟩

/-- The characters of a kind at the cursor, and the cursor after them. -/
def takeWhile (c : Cursor) (p : Char → Bool) : List Char × Cursor :=
  let (taken, rest) := c.rest.span p
  (taken, ⟨rest, c.place + taken.length⟩)

def skipWhile (c : Cursor) (p : Char → Bool) : Cursor := (c.takeWhile p).2

/-- The cursor after a word, if the text goes on with it. -/
def after? (c : Cursor) (word : String) : Option Cursor :=
  if word.toList.isPrefixOf c.rest then some (c.advance word.toList.length) else none

end Cursor

/-- The line and the column of a place in a text, both counted from one. -/
def lineAndColumn (text : List Char) (place : Nat) : Nat × Nat :=
  let before := text.take place
  (before.count '\n' + 1, (before.reverse.takeWhile (· ≠ '\n')).length + 1)

/-- A text with every line ended in the same way. -/
def normalizeLines : List Char → List Char
  | [] => []
  | '\r' :: '\n' :: rest => '\n' :: normalizeLines rest
  | '\r' :: rest => '\n' :: normalizeLines rest
  | c :: rest => c :: normalizeLines rest

end ExpectedDamage.Document
