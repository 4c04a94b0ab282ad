import ExpectedDamage.Number.Binary64
/-!
# Binary64 numbers in decimal

Writing a number has two parts. `shortest` and `significant` choose the digits,
in exact arithmetic on the count of grains; `Layout` says how chosen digits are
laid out. The digits of `shortest` are the first that `Binary64.ofDecimal` reads
back as the same number, so reading and writing share one notion of rounding. If
any decimal of a length reads back, so does one of the two `neighbours` of the
number on that grid, hence only those are tried.
-/

namespace ExpectedDamage

/-- The decimal `digits * 10 ^ exponent`. -/
structure Decimal where
  digits : Nat
  exponent : Int
  deriving DecidableEq, Repr

namespace Decimal

open Binary64 (grainsPerUnit divRoundEven)

/-- The decimal digits of a whole number. -/
def digitsOf (n : Nat) : List Char := Nat.toDigits 10 n

/-- The least `k` with `g` grains below `10 ^ k`, for a positive count `g`. -/
def scale (g : Nat) : Int :=
  if grainsPerUnit ≤ g then (digitsOf (g / grainsPerUnit)).length
  else 1 - ((digitsOf ((grainsPerUnit + g - 1) / g - 1)).length : Int)

/-- A count of grains in units of `10 ^ exponent`, as a fraction. -/
def fraction (g : Nat) (exponent : Int) : Nat × Nat :=
  (g * Nat.pow 10 (-exponent).toNat, grainsPerUnit * Nat.pow 10 exponent.toNat)

/-- A count of grains rounded to a number of significant digits. -/
def significant (g places : Nat) : Decimal :=
  let exponent := scale g - places
  let (n, d) := fraction g exponent
  ⟨divRoundEven n d, exponent⟩

/-- The two decimals with a number of significant digits between which a count
lies, the nearer one first. -/
def neighbours (g places : Nat) : List Decimal :=
  let exponent := scale g - places
  let (n, d) := fraction g exponent
  let near := divRoundEven n d
  let far := if near = n / d then near + 1 else n / d
  [⟨near, exponent⟩, ⟨far, exponent⟩]

/-- Whether the decimal is read as the given count of grains. -/
def readsBack (d : Decimal) (g : Nat) : Bool :=
  match Binary64.ofDecimal false d.digits d.exponent with
  | .finite _ h _ => h == g
  | _ => false

/-- The fewest significant digits that read back, and of those the nearest
decimal. Seventeen digits always read back. -/
def shortest (g : Nat) : Decimal :=
  let candidates := (List.range 17).flatMap fun i => neighbours g (i + 1)
  (candidates.find? (·.readsBack g)).getD (significant g 17)

/-- The digits without trailing zeros, and the exponent of the leading digit. -/
def leading (d : Decimal) : List Char × Int :=
  let digits := digitsOf d.digits
  let kept := (digits.reverse.dropWhile (· == '0')).reverse
  (if kept.isEmpty then ['0'] else kept, d.exponent + digits.length - 1)

end Decimal

/-- How a number is laid out. -/
structure Layout where
  /-- The number of significant digits; the fewest that read back if none is given. -/
  places : Option Nat
  /-- Leading exponents from -4 up to this one are written without an exponent. -/
  positionalBelow : Int
  /-- Whether a whole number ends in `.0`. -/
  wholePoint : Bool

namespace Layout

/-- Every digit that matters, as in `12.0`, `0.1` and `1e+16`. -/
def full : Layout := ⟨none, 16, true⟩

/-- Six digits at most, as in `12`, `0.1` and `1e+06`. -/
def brief : Layout := ⟨some 6, 6, false⟩

private def sign (negative : Bool) : List Char := if negative then ['-'] else []

/-- Chosen digits, without trailing zeros, under the exponent of the first. -/
def place (layout : Layout) (digits : List Char) (exponent : Int) : List Char :=
  if -4 ≤ exponent && exponent < layout.positionalBelow then
    if exponent < 0 then
      '0' :: '.' :: List.replicate (-exponent - 1).toNat '0' ++ digits
    else
      let size := exponent.toNat + 1
      let whole := digits.take size ++ List.replicate (size - digits.length) '0'
      let fraction := digits.drop size
      if fraction.isEmpty then whole ++ (if layout.wholePoint then ['.', '0'] else [])
      else whole ++ '.' :: fraction
  else
    let mantissa :=
      match digits with
      | first :: second :: rest => first :: '.' :: second :: rest
      | short => short
    let size := Decimal.digitsOf exponent.natAbs
    mantissa ++ 'e' :: (if exponent < 0 then '-' else '+') ::
      List.replicate (2 - size.length) '0' ++ size

def text (layout : Layout) : Binary64 → String
  | .notANumber => "nan"
  | .infinite negative => String.ofList (sign negative ++ "inf".toList)
  | .finite negative g _ =>
    let (digits, exponent) :=
      if g = 0 then (['0'], 0)
      else
        match layout.places with
        | some places => (Decimal.significant g places).leading
        | none => (Decimal.shortest g).leading
    String.ofList (sign negative ++ layout.place digits exponent)

end Layout

namespace Binary64

/-- The text of a number with every digit that matters. -/
def text (x : Binary64) : String := Layout.full.text x

/-- The text of a number with a fixed number of decimals, the exact value rounded
with halves to the even digit. -/
def fixedText (decimals : Nat) : Binary64 → String
  | .notANumber => "nan"
  | .infinite negative => (if negative then "-" else "") ++ "inf"
  | .finite negative g _ =>
    let digits := Decimal.digitsOf (divRoundEven (g * Nat.pow 10 decimals) grainsPerUnit)
    let padded := List.replicate (decimals + 1 - digits.length) '0' ++ digits
    let point := padded.length - decimals
    String.ofList ((if negative then ['-'] else []) ++
      padded.take point ++ '.' :: padded.drop point)

/-- The fixed text, with a plus sign unless the number is negative. -/
def signedText (decimals : Nat) (x : Binary64) : String :=
  match x with
  | .finite false .. | .infinite false => "+" ++ x.fixedText decimals
  | .notANumber => "+nan"
  | _ => x.fixedText decimals

end Binary64

end ExpectedDamage
