import ExpectedDamage.Text.Blank
import ExpectedDamage.Text.Lowercase
/-!
# Abilities and saving throws

Records name an ability in many ways: "DEX", "Dexterity", "dex save". The first
three letters decide, since they tell the abilities apart.
-/

namespace ExpectedDamage.Combat

/-- An ability of a creature. -/
inductive Ability where
  | strength
  | dexterity
  | constitution
  | intelligence
  | wisdom
  | charisma
  deriving DecidableEq, Repr

namespace Ability

def all : List Ability := [strength, dexterity, constitution, intelligence, wisdom, charisma]

def name : Ability → String
  | strength => "strength"
  | dexterity => "dexterity"
  | constitution => "constitution"
  | intelligence => "intelligence"
  | wisdom => "wisdom"
  | charisma => "charisma"

def letters (a : Ability) : List Char := a.name.toList.take 3

/-- The ability that a text names by its first three letters, if it names one. -/
def ofText? (text : String) : Option Ability :=
  let start := (Text.lower (Text.trim text.toList)).take 3
  all.find? (·.letters == start)

end Ability

/-- A saving throw bonus for each ability. -/
structure Saves where
  strength : Int := 2
  dexterity : Int := 3
  constitution : Int := 3
  intelligence : Int := 0
  wisdom : Int := 1
  charisma : Int := -1
  deriving DecidableEq, Repr

namespace Saves

def bonus (s : Saves) : Ability → Int
  | .strength => s.strength
  | .dexterity => s.dexterity
  | .constitution => s.constitution
  | .intelligence => s.intelligence
  | .wisdom => s.wisdom
  | .charisma => s.charisma

/-- The bonus for the ability that a text names, zero if it names none. -/
def bonusFor (s : Saves) (text : Option String) : Int :=
  ((text.bind Ability.ofText?).map s.bonus).getD 0

end Saves

end ExpectedDamage.Combat
