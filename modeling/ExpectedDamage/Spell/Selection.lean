import ExpectedDamage.Spell.Basic
/-!
# Selections of spells

A selection keeps the order of the list that it is taken from.
-/

namespace ExpectedDamage.Spell

/-- What a list of spells is filtered by; nothing is filtered by default. -/
structure Filter where
  level : Option Int := none
  school : Option String := none
  concentration : Option Bool := none
  damagingOnly : Bool := false
  deriving DecidableEq, Repr

namespace Filter

/-- Whether a spell passes. The school is compared without regard to case, and an
empty school passes every spell. -/
def passes (f : Filter) (s : Spell) : Bool :=
  f.level.all (· == s.level.val)
    && (!isGiven f.school
      || Text.lowercase (s.school.getD "") == Text.lowercase (f.school.getD ""))
    && f.concentration.all (· == s.concentration)
    && (!f.damagingOnly || s.isDamaging)

def select (f : Filter) (spells : List Spell) : List Spell := spells.filter f.passes

end Filter

/-- The key that a wanted text stands for: in lower case, with hyphens for spaces and
without the mark of a source. -/
def wantedKey (wanted : String) : String :=
  normalizeKey (String.ofList ((Text.lower wanted.toList).map fun c => if c = ' ' then '-' else c))

/-- Whether a spell is the wanted one, by its name or by its key. -/
def isWanted (wanted : String) (s : Spell) : Bool :=
  Text.lowercase s.name == Text.lowercase wanted || s.normalizedKey == wantedKey wanted

/-- The spells that are the wanted one; if none is wanted, or only the empty text, all of
them. -/
def selectWanted (wanted : Option String) (spells : List Spell) : List Spell :=
  match wanted with
  | some text => if text = "" then spells else spells.filter (isWanted text)
  | none => spells

end ExpectedDamage.Spell
