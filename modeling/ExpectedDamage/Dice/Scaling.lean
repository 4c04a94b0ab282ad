import ExpectedDamage.Dice.Parser
import ExpectedDamage.Dice.Printer
/-!
# Damage of stronger castings

A spell cast with a higher slot adds the dice of its rule once for each level
above its own; a cantrip rolls more dice at higher character levels. Both give
a new text of the damage, and leave a text alone that they cannot read.
-/

namespace ExpectedDamage.Dice

open Text (Piece)

/-- The first group of dice in a rule; case is ignored. -/
def firstDice? : List Piece → Option WrittenTerm
  | [] => none
  | piece :: rest =>
    match piece, rest with
    | .number count, .mark 'd' :: .number sides :: _ => some ⟨some count, sides, none⟩
    | .number count, .mark 'D' :: .number sides :: _ => some ⟨some count, sides, none⟩
    | .mark 'd', .number sides :: _ => some ⟨none, sides, none⟩
    | .mark 'D', .number sides :: _ => some ⟨none, sides, none⟩
    | _, rest => firstDice? rest

/-- The dice that a rule adds for each level, as written. -/
def ruleDice? (rule : String) : Option WrittenTerm := firstDice? (Piece.ofText rule.toList)

/-- Dice added to a row of terms: to the first term with the same sides, or as a
term of their own. -/
def addDice (count sides : Int) : List Term → List Term
  | [] => [⟨count, sides, none⟩]
  | t :: rest =>
    if t.sides = sides then { t with count := t.count + count } :: rest
    else t :: addDice count sides rest

def withDice? (text : String) : Except ArithmeticFault (Option Expression) := do
  return (← Expression.parse? text).filter fun e => !e.isFlat

def raisedText? (e : Expression) (levels : Int) (rule : WrittenTerm) :
    Except ArithmeticFault String := do
  let added ← rule.term?
  Expression.text? { e with terms := addDice (added.count * levels) added.sides e.terms }

/-- The damage of a casting `castLevel - baseLevel` levels above the spell's own. The
text is read even if there is no level above, but not without a rule. -/
def scaleText? (text : String) (baseLevel castLevel : Int) (rule : Option String) :
    Except ArithmeticFault String := do
  match rule.filter (· ≠ "") with
  | none => return text
  | some rule =>
    match ← withDice? text with
    | none => return text
    | some e =>
      if castLevel ≤ baseLevel then return text
      else
        match ruleDice? rule with
        | some dice => raisedText? e (castLevel - baseLevel) dice
        | none => return text

/-- `scaleText?` of a damage that may be missing. -/
def scaleForSlot? (base : Option String) (baseLevel castLevel : Int) (rule : Option String) :
    Except ArithmeticFault (Option String) :=
  base.mapM fun text => scaleText? text baseLevel castLevel rule

/-- The damage of a cantrip whose first term has another number of dice; its other
terms and its keep rule are dropped. -/
def scaleCantripText? (text : String) (dice : Int) : Except ArithmeticFault String := do
  match ← Expression.parse? text with
  | some ⟨first :: _, modifier⟩ =>
    Expression.text? ⟨[{ first with count := dice, keep := none }], modifier⟩
  | _ => return text

/-- `scaleCantripText?` of a damage that may be missing. -/
def scaleCantrip? (base : Option String) (dice : Int) : Except ArithmeticFault (Option String) :=
  base.mapM fun text => scaleCantripText? text dice

def hasDice (text : String) : Bool :=
  match withDice? text with
  | .ok found => found.isSome
  | .error _ => false

/-- The remarks of `scaleText?`, up to the point where it ends. -/
def slotNotices (text : String) (baseLevel castLevel : Int) (rule : Option String) :
    List Notice :=
  match rule with
  | some rule =>
    if text = "" || rule = "" then []
    else
      parseNotices text ++
        if hasDice text && baseLevel < castLevel && (ruleDice? rule).isNone then
          [⟨.debug, "No scaling dice in rule " ++ Text.quoted rule⟩]
        else []
  | none => []

end ExpectedDamage.Dice
