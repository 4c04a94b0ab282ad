import ExpectedDamage.Spell.Ranking
import ExpectedDamage.Spell.Selection
/-!
# Sessions

A spell book and a context that are built up step by step. A step either gives the
next session or fails and leaves the session as it was, so a run of steps is a fold
that passes over the failed ones.
-/

namespace ExpectedDamage

open Combat (Context)
open Record

/-- A spell book and a context. -/
structure Session where
  book : List Spell := []
  context : Context := {}
  deriving DecidableEq, Repr

/-- Why a step fails. -/
inductive SessionFault where
  | invalid (problems : List Problem)
  | arithmetic (fault : ArithmeticFault)
  | noSuchSpell
  deriving DecidableEq, Repr

namespace Session

/-- What was read, or the problems as a fault. -/
def checked {α : Type} : Checked α → Except SessionFault α
  | .ok a => .ok a
  | .refused problems => .error (.invalid problems)

/-- What was computed, or the fault of the computation. -/
def computed {α : Type} : Except ArithmeticFault α → Except SessionFault α
  | .ok a => .ok a
  | .error fault => .error (.arithmetic fault)

/-- The place that an index stands for; negative ones count from the end. -/
def place? (s : Session) (index : Int) : Option Nat :=
  if 0 ≤ index then (if index.toNat < s.book.length then some index.toNat else none)
  else if index.natAbs ≤ s.book.length then some (s.book.length - index.natAbs)
  else none

def spell? (s : Session) (index : Int) : Except SessionFault (Nat × Spell) :=
  match (s.place? index).bind fun place => s.book[place]?.map fun spell => (place, spell) with
  | some found => .ok found
  | none => .error .noSuchSpell

/-- The session with one more spell at the end of the book. -/
def add (s : Session) (record : Value) : Except SessionFault Session := do
  let spell ← checked (Spell.read record)
  return { s with book := s.book ++ [spell] }

/-- The session with a spell changed, and that spell. -/
def patch (s : Session) (index : Int) (changes : List (String × Value)) :
    Except SessionFault (Session × Spell) := do
  let (place, spell) ← s.spell? index
  let changed ← checked (spell.withChanges changes)
  return ({ s with book := s.book.set place changed }, changed)

def changeContext (s : Session) (changes : List (String × Value)) :
    Except SessionFault Session := do
  return { s with context := ← checked (s.context.withChanges changes) }

def keep (s : Session) (filter : Spell.Filter) : Session :=
  { s with book := filter.select s.book }

/-- The analysis of a spell of the book. -/
def analyze (s : Session) (index : Int) (castLevel : Option Int) :
    Except SessionFault Spell.Analysis := do
  let (_, spell) ← s.spell? index
  computed (spell.analyze? s.context castLevel)

def compare (s : Session) : Except SessionFault Spell.Comparison :=
  computed (Spell.compare? s.book s.context)

def best (s : Session) (slot limit : Int) : Except SessionFault (List Spell.Analysis) :=
  computed (Spell.bestForSlot? s.book slot s.context limit)

/-- What is asked of a session. -/
inductive Step where
  | add (record : Value)
  | patch (index : Int) (changes : List (String × Value))
  | changeContext (changes : List (String × Value))
  | keep (filter : Spell.Filter)
  | analyze (index : Int) (castLevel : Option Int)
  | compare
  | best (slot limit : Int)

/-- The session that a step gives, if it does not fail. -/
def next? (s : Session) : Step → Except SessionFault Session
  | .add record => s.add record
  | .patch index changes => Prod.fst <$> s.patch index changes
  | .changeContext changes => s.changeContext changes
  | .keep filter => .ok (s.keep filter)
  | .analyze index castLevel => (fun _ => s) <$> s.analyze index castLevel
  | .compare => (fun _ => s) <$> s.compare
  | .best slot limit => (fun _ => s) <$> s.best slot limit

/-- The session after a step. -/
def after (s : Session) (step : Step) : Session :=
  match s.next? step with
  | .ok next => next
  | .error _ => s

def run (s : Session) (steps : List Step) : Session := steps.foldl after s

end Session

end ExpectedDamage
