import ExpectedDamage.Area.Template
import ExpectedDamage.Area.Wording
import ExpectedDamage.Notice
import ExpectedDamage.Number.WholeText
/-!
# Rules for targets

A description is held against the rules in a fixed order, and the first rule that
finds its wording decides. Shapes stand before general phrases, so that "each
creature in a 20-foot cone" is a cone. What a rule finds is a matter of the text
alone (`TargetRule.find?`); the size of a template is read and its squares are computed
afterwards.
-/

namespace ExpectedDamage.Area

/-- A kind of wording that says how many targets there are. -/
inductive TargetRule where
  | cone
  | cylinder
  | distance
  | cube
  | line
  | radius
  | chain
  | projectiles
  | counted
  | eachCreature
  | single
  deriving DecidableEq, Repr

/-- What a rule finds in a text. -/
inductive Finding where
  /-- An area of a size, given by its digits. -/
  | area (template : Template) (size : List Char)
  /-- A number of targets, and the most that there can be. -/
  | count (targets most : Nat)
  deriving DecidableEq, Repr

namespace TargetRule

/-- The rules in the order in which they are tried. -/
def all : List TargetRule :=
  [cone, cylinder, distance, cube, line, radius, chain, projectiles, counted, eachCreature, single]

def name : TargetRule → String
  | cone => "cone"
  | cylinder => "cylinder"
  | distance => "distance"
  | cube => "cube"
  | line => "line"
  | radius => "radius"
  | chain => "chain"
  | projectiles => "projectiles"
  | counted => "counted"
  | eachCreature => "each_creature"
  | single => "single"

/-- A number of targets that is also the most there can be. -/
def exactly (n : Nat) : Finding := .count n n

/-- What a rule finds in a text in lower case. A cylinder or a line whose size cannot be
found is a single target. -/
def find? (rule : TargetRule) (text : List Char) : Option Finding :=
  match rule with
  | cone => (sized? "cone" text).map (.area .cone)
  | cylinder =>
    if speaksOfCylinder text then
      some (((cylinderSize? text).map (.area .cylinder)).getD (exactly 1))
    else none
  | distance => (distance? text).map (.area .emanation)
  | cube => (sized? "cube" text).map (.area .cube)
  | line =>
    if speaksOfLine text then some (((lineSize? text).map (.area .line)).getD (exactly 1))
    else none
  | radius => if strikesPoint text then none else (sized? "radius" text).map (.area .burst)
  | chain =>
    if Text.contains "three other targets" text || Text.contains "3 other targets" text then
      some (exactly 4)
    else none
  | projectiles => (projectiles? text).map exactly
  | counted => (countedCreatures? text).map exactly
  | eachCreature =>
    if Text.contains "each creature" text || Text.contains "all creatures" text then
      some (.count 2 20)
    else none
  | single =>
    if ["one creature", "one target", "a creature", "a target"].any fun phrase =>
        Text.contains phrase text then
      some (exactly 1)
    else none

end TargetRule

/-- A finding with the squares of its area. -/
structure RuleMatch where
  rule : TargetRule
  maxTargets : Nat
  /-- The number of targets, unless it depends on how close enemies stand. -/
  targets : Option Nat
  area : Option (Shape × Nat)
  deriving DecidableEq, Repr

def Finding.measure? (rule : TargetRule) : Finding → Except ArithmeticFault RuleMatch
  | .area template digits => do
    let size ← WholeText.value? digits
    let squares ← template.squares? size
    return ⟨rule, squares, none, some (template.shape, size)⟩
  | .count targets most => .ok ⟨rule, most, some targets, none⟩

/-- The match of a rule, if it finds anything. -/
def TargetRule.match? (rule : TargetRule) (text : List Char) :
    Except ArithmeticFault (Option RuleMatch) :=
  match rule.find? text with
  | some finding => some <$> finding.measure? rule
  | none => .ok none

/-- The first rule that finds anything, and what it finds. -/
def firstFinding? (text : List Char) : Option (TargetRule × Finding) :=
  TargetRule.all.findSome? fun rule => (rule.find? text).map fun finding => (rule, finding)

/-- The match of the first rule that finds anything. -/
def firstMatch? (text : List Char) : Except ArithmeticFault (Option RuleMatch) :=
  match firstFinding? text with
  | some (rule, finding) => some <$> finding.measure? rule
  | none => .ok none

/-- The remarks on the first match; on a match without squares there is none. -/
def matchNotices (text : List Char) : List Notice :=
  match firstFinding? text with
  | some (rule, finding) =>
    match finding.measure? rule with
    | .ok m =>
      (if rule = .cylinder && m.area.isNone then
        [⟨.debug, "Cylinder wording without a usable size"⟩] else [])
      ++ [⟨.debug,
        "Target rule " ++ rule.name ++ " matched (max " ++ toString m.maxTargets ++ ")"⟩]
    | .error _ => []
  | none => []

end ExpectedDamage.Area
