import ExpectedDamage.Record.Scalar
/-!
# Levels and days of adventure

What characters and combat contexts have in common: the levels that a character
can have, the levels at which more comes of it, and the fights of a usual day.
-/

namespace ExpectedDamage

abbrev CharacterLevel := Record.Between 1 20

namespace CharacterLevel

def first : CharacterLevel := ⟨1, by decide⟩
def fifth : CharacterLevel := ⟨5, by decide⟩
def eleventh : CharacterLevel := ⟨11, by decide⟩
def seventeenth : CharacterLevel := ⟨17, by decide⟩

end CharacterLevel

/-- The fights of a usual day. -/
def usualEncounters : Record.AtLeast 1 := ⟨4, by decide⟩

end ExpectedDamage
