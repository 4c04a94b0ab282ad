import ExpectedDamage.Spell.Basic
import ExpectedDamage.Text.Blank
import ExpectedDamage.Text.Word
/-!
# Damage types and who picks them

A caster who picks the damage type gets around resistances, so an analysis says
whether the type is a choice, a matter of chance, or fixed. A choice is known for
some spells, or it is worded as "you choose acid, cold, or fire".
-/

namespace ExpectedDamage

/-- A type of damage that wordings of a choice name. -/
inductive DamageType where
  | acid
  | cold
  | fire
  | force
  | lightning
  | necrotic
  | poison
  | psychic
  | radiant
  | thunder
  deriving DecidableEq, Repr

namespace DamageType

def all : List DamageType :=
  [acid, cold, fire, force, lightning, necrotic, poison, psychic, radiant, thunder]

def name : DamageType → String
  | acid => "acid"
  | cold => "cold"
  | fire => "fire"
  | force => "force"
  | lightning => "lightning"
  | necrotic => "necrotic"
  | poison => "poison"
  | psychic => "psychic"
  | radiant => "radiant"
  | thunder => "thunder"

/-- A letter without regard to case, in a text in lower case: the dotless i and the long
s are letters whose capitals are plain ones. -/
def plainLetter (c : Char) : Char :=
  if c = 'ı' then 'i' else if c = 'ſ' then 's' else c

/-- The rest of a text that begins with a word, its letters taken as plain ones. -/
def afterPlain? : List Char → List Char → Option (List Char)
  | [], text => some text
  | _ :: _, [] => none
  | w :: word, c :: text => if w = plainLetter c then afterPlain? word text else none

def afterName? (text : List Char) : Option (List Char) :=
  all.findSome? fun t => afterPlain? t.name.toList text

def isName (word : List Char) : Bool := all.any fun t => t.name.toList == word.map plainLetter

/-- The rest of a text that begins with a comma, blanks and the name of a type. -/
def afterListed? : List Char → Option (List Char)
  | ',' :: rest => afterName? (rest.dropWhile Text.isBlank)
  | _ => none

def afterAllListed (text : List Char) : List Char :=
  match afterListed? text with
  | some rest => if rest.length < text.length then afterAllListed rest else text
  | none => text
termination_by text.length

/-- The rest of a text that begins with "or" and the name of a type; a comma may
precede. -/
def afterLast? (text : List Char) : Option (List Char) := do
  let afterComma :=
    match text with
    | ',' :: rest => rest
    | rest => rest
  let rest ← afterPlain? "or".toList (afterComma.dropWhile Text.isBlank)
  afterName? (rest.dropWhile Text.isBlank)

def choiceAhead? (text : List Char) : Option (List Char) := do
  let rest ← afterPlain? "you choose ".toList text
  let rest ← afterName? rest
  let rest ← afterLast? (afterAllListed rest)
  return text.take (text.length - rest.length)

/-- The names in the first wording of a choice, without repetitions. -/
def choice (text : List Char) : List String :=
  match Text.firstIn? choiceAhead? text with
  | some wording => (((Text.words wording).filter isName).map String.ofList).eraseDups
  | none => []

end DamageType

/-- Who picks the type of a spell's damage. -/
inductive TypePicker where
  | nobody
  | caster
  | chance
  deriving DecidableEq, Repr

/-- The types of damage that a spell can do. -/
structure DamageTypes where
  types : List String
  picker : TypePicker
  deriving DecidableEq, Repr

namespace Spell

open DamageType in
/-- The types that the caster of a known spell can pick. -/
def knownChoices : List (String × List DamageType) :=
  [("chromatic-orb", [acid, cold, fire, lightning, poison, thunder]),
   ("dragons-breath", [acid, cold, fire, lightning, poison]),
   ("elemental-bane", [acid, cold, fire, lightning]),
   ("elemental-weapon", [acid, cold, fire, lightning, thunder]),
   ("glyph-of-warding", [acid, cold, fire, lightning, thunder]),
   ("spirit-shroud", [cold, necrotic, radiant]),
   ("flame-blade", [fire])]

open DamageType in
/-- The types that chance picks from. -/
def randomTypes : List DamageType :=
  [acid, cold, fire, force, lightning, poison, psychic, thunder]

/-- Whether the wording leaves the type to chance. -/
def speaksOfRandomType (text : List Char) : Bool :=
  Text.contains "chaos bolt" text
    || (Text.contains "determines the" text && Text.contains "damage type" text)

/-- The types of a spell's damage: those of a known spell, of a worded choice of two
types at least, of chance, or else of the record. -/
def damageChoice (s : Spell) : DamageTypes :=
  match knownChoices.find? (·.1 == s.normalizedKey) with
  | some (_, types) => ⟨types.map DamageType.name, .caster⟩
  | none =>
    let chosen := DamageType.choice s.wording
    if 1 < chosen.length then ⟨chosen, .caster⟩
    else if speaksOfRandomType s.wording then ⟨randomTypes.map DamageType.name, .chance⟩
    else ⟨s.damageTypes, .nobody⟩

end Spell

end ExpectedDamage
