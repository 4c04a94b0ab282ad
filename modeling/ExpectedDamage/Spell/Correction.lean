import ExpectedDamage.Keyed
import ExpectedDamage.Number.Figure
import ExpectedDamage.Spell.Basic
/-!
# Corrections of records

The damage roll of some records is wrong or lacks a part. A correction replaces it
by the key of the spell, before anything is read from the description.
-/

namespace ExpectedDamage.Spell

/-- A hit that may go on to another target. -/
structure Chain where
  /-- One hit in so many goes on. -/
  oneIn : Nat
  description : String
  deriving DecidableEq, Repr

/-- The chance that a hit goes on. -/
def Chain.chance {α : Type} [Figure α] (c : Chain) : α := Figure.quotient 1 c.oneIn

/-- What replaces the damage of a record. -/
structure Correction where
  damage : String
  /-- The dice that each higher slot level adds. -/
  slotRule : Option String
  chain : Option Chain
  deriving DecidableEq, Repr

/-- The corrections by the keys of their spells. The bolt of chaos is recorded without
its two eight-sided dice, and it leaps on when they match. -/
def corrections : List (String × Correction) :=
  [("chaos-bolt",
    { damage := "2d8+1d6"
      slotRule := some "1d6"
      chain := some ⟨8, "When both d8s match, leaps to another target within 30ft"⟩ })]

def correctionFor? (normalizedKey : String) : Option Correction :=
  Keyed.lookup? corrections normalizedKey

def correction? (s : Spell) : Option Correction := correctionFor? s.normalizedKey

end ExpectedDamage.Spell
