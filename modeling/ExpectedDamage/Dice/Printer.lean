import ExpectedDamage.Dice.Expression
import ExpectedDamage.Number.WholeText
/-!
# Printing dice expressions

The canonical text of an expression: its terms joined by `+`, and its modifier
with its sign. A modifier of zero is not written, and a positive one that stands
alone has no sign. `text` writes any expression; `text?` refuses one with a number
that a text has no room for.
-/

namespace ExpectedDamage.Dice

def KeepMode.letter : KeepMode → Char
  | highest => 'h'
  | lowest => 'l'

def KeepRule.chars (rule : KeepRule) : List Char :=
  'k' :: rule.mode.letter :: WholeText.chars rule.count

def Term.chars (t : Term) : List Char :=
  WholeText.chars t.count ++ 'd' :: WholeText.chars t.sides ++
    match t.keep with
    | some rule => rule.chars
    | none => []

/-- The terms joined by plus signs. -/
def termsChars : List Term → List Char
  | [] => []
  | [t] => t.chars
  | t :: rest => t.chars ++ '+' :: termsChars rest

/-- The modifier as it is written after some terms, or after none. -/
def modifierChars (afterTerms : Bool) (modifier : Int) : List Char :=
  if modifier = 0 then []
  else if 0 < modifier && afterTerms then '+' :: WholeText.chars modifier
  else WholeText.chars modifier

def Term.numbers (t : Term) : List Int := t.count :: t.sides :: t.keep.toList.map KeepRule.count

namespace Expression

def chars (e : Expression) : List Char :=
  termsChars e.terms ++ modifierChars (!e.isFlat) e.modifier

def text (e : Expression) : String := String.ofList e.chars

def numbers (e : Expression) : List Int := e.terms.flatMap Term.numbers ++ [e.modifier]

/-- The canonical text of an expression, unless one of its numbers has too many digits. -/
def text? (e : Expression) : Except ArithmeticFault String :=
  WholeText.showing? e.numbers e.text

end Expression

end ExpectedDamage.Dice
