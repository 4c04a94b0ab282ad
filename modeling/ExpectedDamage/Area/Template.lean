import ExpectedDamage.Number.Binary64
/-!
# Templates on a grid

An area of effect covers a number of squares of five feet. Common sizes have
their count in a table, taken from the grid; other sizes take it from the shape.
A size that no table of a cylinder has is covered by four squares.
-/

namespace ExpectedDamage.Area

/-- The shape that is reported for an area. -/
inductive Shape where
  | cone
  | cylinder
  | sphere
  | cube
  | line
  deriving DecidableEq, Repr

def Shape.name : Shape → String
  | cone => "cone"
  | cylinder => "cylinder"
  | sphere => "sphere"
  | cube => "cube"
  | line => "line"

/-- The squares of common sizes of a shape, each with a size in feet. A cone has
rows of one, two, three squares and so on; the square around the origin of a sphere
loses its corners when it is large; the base of a cylinder is that of a sphere. -/
def Shape.table : Shape → List (Nat × Nat)
  | cone => [(10, 3), (15, 6), (30, 21), (60, 78)]
  | sphere => [(5, 4), (10, 16), (15, 36), (20, 52), (30, 120), (40, 200)]
  | cube => [(5, 1), (10, 4), (15, 9), (20, 16), (30, 36)]
  | line => [(30, 6), (60, 12), (100, 20), (120, 24)]
  | cylinder => [(5, 4), (10, 16), (20, 52), (30, 120)]

def Shape.listed? (s : Shape) (size : Nat) : Option Nat :=
  (s.table.find? (·.1 == size)).map Prod.snd

/-- What the size of a template measures. -/
inductive Template where
  | cone
  | cylinder
  /-- Everything up to a distance from the caster. -/
  | emanation
  | cube
  | line
  /-- A sphere or circle of a radius. -/
  | burst
  deriving DecidableEq, Repr

namespace Template

def shape : Template → Shape
  | cone => .cone
  | cylinder => .cylinder
  | emanation => .sphere
  | cube => .cube
  | line => .line
  | burst => .sphere

/-- The nearest whole number, halves up. -/
def roundUp? (x : Binary64) : Except ArithmeticFault Nat :=
  Int.toNat <$> (x + 0.5).floor?

/-- The square of a number, refused if it is too large. It is the correctly rounded product of
the number with itself; the power that the C library takes may differ from it in the last
place. -/
def square? (x : Binary64) : Except ArithmeticFault Binary64 :=
  if (x * x).isInfinite then .error .overflow else .ok (x * x)

/-- The squares of a size that no table has. -/
def measured? (t : Template) (size : Nat) : Except ArithmeticFault Nat := do
  match t with
  | cone => roundUp? (← Binary64.quotient? (size * size) 25)
  | cylinder => return 4
  | emanation => roundUp? (← square? ((← Binary64.quotient? size 5) * 2))
  | cube => roundUp? (← square? (← Binary64.quotient? size 5))
  | line => roundUp? (← Binary64.quotient? size 5)
  | burst => roundUp? (3.141592653589793 * (← square? (← Binary64.quotient? size 5)))

/-- The squares that tables have for a size. The base of a cylinder is looked up among
the spheres too. -/
def listed? (t : Template) (size : Nat) : Option Nat :=
  match t with
  | cylinder => Shape.cylinder.listed? size <|> Shape.sphere.listed? size
  | t => t.shape.listed? size

def squares? (t : Template) (size : Nat) : Except ArithmeticFault Nat :=
  match t.listed? size with
  | some squares => .ok squares
  | none => t.measured? size

end Template

/-- The squares for each enemy, who may be spread out or stand close together. -/
def density (clustered : Bool) : Int := if clustered then 2 else 4

/-- The enemies among a number of squares: at least one. -/
def enemiesIn? (squares : Int) (clustered : Bool) : Except ArithmeticFault Int := do
  let enemies ← Binary64.quotient? squares (density clustered)
  let rounded ← (enemies + 0.5).floor?
  return max 1 rounded

end ExpectedDamage.Area
