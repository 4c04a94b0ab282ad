import ExpectedDamage.Dice.Parser
import ExpectedDamage.Number.Amount
import ExpectedDamage.Number.Figure
/-!
# Average, minimum and maximum

The average of a plain term is exact. A term that keeps some of its dice is
averaged through the expected order statistics of a uniform variable: the die of
rank `r` among `n` counts `(sides + 1) * r / (n + 1)`. Three common rules have
their exact average instead.

The averages that go into the damage formulas are read in any `Figure`. By itself, the
average of dice is a binary64 number, and that of a flat number stays whole.
-/

namespace ExpectedDamage.Dice

def exactKeepAverage? {α : Type} [Figure α] (count sides : Int) (rule : KeepRule) : Option α :=
  if count = 4 ∧ sides = 6 ∧ rule = ⟨.highest, 3⟩ then some 12.24
  else if count = 2 ∧ sides = 20 ∧ rule = ⟨.highest, 1⟩ then some 13.825
  else if count = 2 ∧ sides = 20 ∧ rule = ⟨.lowest, 1⟩ then some 7.175
  else none

/-- The ranks of the kept dice, from the outermost inwards. -/
def keptRanks (count : Int) (rule : KeepRule) : List Int :=
  (List.range rule.count.toNat).map fun (i : Nat) =>
    match rule.mode with
    | .highest => count - (i : Int)
    | .lowest => (i : Int) + 1

def keepAverage? {α : Type} [Figure α] (count sides : Int) (rule : KeepRule) :
    Except ArithmeticFault α :=
  match exactKeepAverage? count sides rule with
  | some average => .ok average
  | none => do
    let parts ← (keptRanks count rule).mapM fun rank =>
      Figure.quotient? ((sides + 1) * rank) (count + 1)
    return Figure.total parts

def Term.average? {α : Type} [Figure α] (t : Term) : Except ArithmeticFault α :=
  match t.keep with
  | some rule => keepAverage? t.count t.sides rule
  | none => Figure.quotient? (t.count * (t.sides + 1)) 2

namespace Expression

/-- The average of an expression as a figure: the modifier and the sum of its terms. -/
def mean? {α : Type} [Figure α] (e : Expression) : Except ArithmeticFault α := do
  let parts ← e.terms.mapM Term.average?
  let modifier ← Figure.ofInt? e.modifier
  return modifier + Figure.total parts

/-- The average of an expression. A flat number, however large, is its own average. -/
def average? (e : Expression) : Except ArithmeticFault Amount :=
  if e.isFlat then .ok (.whole e.modifier) else Amount.real <$> e.mean?

/-- The lowest total: every kept die shows one. -/
def minimum (e : Expression) : Int := e.modifier + wholeSum (e.terms.map Term.keptCount)

/-- The highest total: every kept die shows its last face. -/
def maximum (e : Expression) : Int :=
  e.modifier + wholeSum (e.terms.map fun t => t.keptCount * t.sides)

end Expression

/-- The statistics of an expression, with the average as a figure. -/
structure Summary where
  expression : Expression
  average : Binary64
  minimum : Int
  maximum : Int
  deriving DecidableEq, Repr

/-- The statistics of a text, or none if it is no expression. They are refused if the average
has no figure. -/
def summarize? (text : String) : Except ArithmeticFault (Option Summary) := do
  match ← Expression.parse? text with
  | none => return none
  | some e =>
    let average ← (← e.average?).toReal?
    return some ⟨e, average, e.minimum, e.maximum⟩

end ExpectedDamage.Dice
