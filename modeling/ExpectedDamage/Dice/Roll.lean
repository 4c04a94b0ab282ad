import ExpectedDamage.Dice.Expression
import ExpectedDamage.Number.WholeSum
/-!
# Rolling dice

A roll is a function of the expression and of a stream of faces: the die drawn at
place `i` of the stream shows `1 + faces i % sides`. Dice are drawn term by term,
and the place of the next die is carried along, so that rolls can follow each
other on one stream.
-/

namespace ExpectedDamage.Dice

abbrev Faces := Nat → Nat

/-- The outcome of a roll. -/
structure Roll where
  kept : List Int
  discarded : List Int
  modifier : Int
  deriving DecidableEq, Repr

def Roll.total (r : Roll) : Int := wholeSum r.kept + r.modifier

def Roll.numbers (r : Roll) : List Int := r.kept ++ r.discarded ++ [r.total]

/-- A number of dice, drawn from a place of the stream on. -/
def drawn (faces : Faces) (start : Nat) (sides : Int) (count : Nat) : List Int :=
  (List.range count).map fun i => 1 + (faces (start + i) : Int) % sides

/-- Drawn dice, divided into kept and discarded ones. Under a keep rule they are
ordered from high to low first. -/
def divide (keep : Option KeepRule) (dice : List Int) : List Int × List Int :=
  match keep with
  | none => (dice, [])
  | some rule =>
    let ordered := dice.mergeSort fun a b => b ≤ a
    match rule.mode with
    | .highest => ordered.splitAt rule.count.toNat
    | .lowest => (ordered.splitAt (ordered.length - rule.count.toNat)).swap

/-- The kept and the discarded dice of some terms, and the place after them. -/
def rollTerms (faces : Faces) (start : Nat) : List Term → (List Int × List Int) × Nat
  | [] => (([], []), start)
  | t :: rest =>
    let (kept, discarded) := divide t.keep (drawn faces start t.sides t.count.toNat)
    let ((restKept, restDiscarded), next) := rollTerms faces (start + t.count.toNat) rest
    ((kept ++ restKept, discarded ++ restDiscarded), next)

/-- One roll of an expression from a place of the stream on, and the place after it. -/
def Expression.roll (faces : Faces) (start : Nat) (e : Expression) : Roll × Nat :=
  let ((kept, discarded), next) := rollTerms faces start e.terms
  (⟨kept, discarded, e.modifier⟩, next)

/-- A number of rolls that follow each other on the stream. -/
def Expression.rolls (faces : Faces) (start : Nat) (e : Expression) : Nat → List Roll
  | 0 => []
  | n + 1 =>
    let (first, next) := e.roll faces start
    first :: e.rolls faces next n

end ExpectedDamage.Dice
