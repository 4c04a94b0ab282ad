import ExpectedDamage.Spell.AnalysisRecord
/-!
# Rankings

Analyses in falling order of a figure. Equal figures keep the order of the list,
and of several greatest ones the first is the best.
-/

namespace ExpectedDamage.Spell

open Combat (Context)
open Record

/-- The items in falling order of a figure, equal ones in the order of the list. -/
def rankedBy {α : Type} (figure : α → Binary64) (items : List α) : List α :=
  items.mergeSort fun a b => (figure b).atMost (figure a)

/-- The first item with the greatest figure. -/
def firstGreatest? {α : Type} (figure : α → Binary64) : List α → Option α
  | [] => none
  | a :: rest => some (rest.foldl (fun best b => if figure best < figure b then b else best) a)

/-- Several analyses, ranked by total damage. -/
structure Comparison where
  ranked : List Analysis
  deriving DecidableEq, Repr

namespace Comparison

/-- The spell with the greatest total. -/
def bestDamage (c : Comparison) : Option String := c.ranked.head?.map (·.spell.name)

def damaging (c : Comparison) : List (Analysis × Damage) :=
  c.ranked.filterMap fun a => a.damage?.map fun d => (a, d)

/-- The damaging spell with the greatest damage for each level of its slot. -/
def bestEfficiency (c : Comparison) : Option String :=
  (firstGreatest? (fun rated : Analysis × Damage => rated.2.perSlotLevel) c.damaging).map
    (·.1.spell.name)

def dump (c : Comparison) : Value :=
  .object
    [("spells", .list (c.ranked.map Analysis.dump)),
     ("best_damage", .ofOption .text c.bestDamage),
     ("best_efficiency", .ofOption .text c.bestEfficiency)]

end Comparison

def Comparison.ofAnalyses (analyses : List Analysis) : Comparison :=
  ⟨rankedBy Analysis.total analyses⟩

def compare? (spells : List Spell) (context : Context) : Except ArithmeticFault Comparison :=
  Comparison.ofAnalyses <$> spells.mapM fun s => s.analyze? context none

/-- Whether a spell can be cast with a slot for damage; cantrips need no slot. -/
def fitsSlot (slot : Int) (s : Spell) : Bool :=
  0 < s.level.val && s.level.val ≤ slot && s.isDamaging

/-- The items up to a bound, or up to a bound from the end if it is negative. -/
def upTo {α : Type} (bound : Int) (items : List α) : List α :=
  if 0 ≤ bound then items.take bound.toNat else items.take (items.length - bound.natAbs)

/-- The damage for each level of the slot, zero for a harmless spell. -/
def Analysis.perSlotLevel (a : Analysis) : Binary64 := (a.damage?.map Damage.perSlotLevel).getD 0.0

/-- The damaging ones of some analyses, by damage for each level of the slot. -/
def bestOf (analyses : List Analysis) : List Analysis :=
  rankedBy Analysis.perSlotLevel (analyses.filter fun a => a.damage?.isSome)

/-- The best spells for a slot, all cast with it. -/
def bestForSlot? (spells : List Spell) (slot : Int) (context : Context) (limit : Int) :
    Except ArithmeticFault (List Analysis) := do
  let analyses ← (spells.filter (fitsSlot slot)).mapM fun s => s.analyze? context (some slot)
  return upTo limit (bestOf analyses)

end ExpectedDamage.Spell
