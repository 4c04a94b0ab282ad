import ExpectedDamage.Number.Fault
/-!
# Binary64 numbers as exact counts

A finite binary64 number is a whole number of *grains* of size `2 ^ (-1074)`,
with at most 53 significant bits. Keeping the count itself, instead of a
significand and an exponent, makes every operation the exact result followed by
one rounding: `nearest n d` is the representable count closest to `n / d`, with
ties to the even neighbour, and nothing else in this module rounds. Subnormal
numbers need no case of their own, since the spacing of the counts never falls
below one grain.

`Binary64.round` adds the sign and the overflow to infinity. That a rounded
count is representable is `spacing_dvd_nearest`, and it is part of the type.
-/

namespace ExpectedDamage

namespace Binary64

/-- The grains in one. -/
def grainsPerUnit : Nat := Nat.pow 2 1074

/-- Counts below this limit are finite: it is `2 ^ 1024`, in grains. -/
def grainLimit : Nat := Nat.pow 2 2098

/-- The quotient rounded to the nearest whole number, halves to the even one. -/
def divRoundEven (n d : Nat) : Nat :=
  if 2 * (n % d) < d then n / d
  else if d < 2 * (n % d) then n / d + 1
  else n / d + n / d % 2

/-- Significands of rounded counts are at most this. -/
def significandLimit : Nat := Nat.pow 2 53

/-- The distance between representable counts of the size of `g`: such counts
have 53 significant bits. -/
def spacing (g : Nat) : Nat := Nat.pow 2 (g.log2 - 52)

/-- A count of grains that binary64 has. -/
def Representable (g : Nat) : Prop := g < grainLimit ∧ spacing g ∣ g

instance (g : Nat) : Decidable (Representable g) :=
  inferInstanceAs (Decidable (_ ∧ _))

/-- The count with at most 53 significant bits that is nearest to `n / d`. -/
def nearest (n d : Nat) : Nat :=
  divRoundEven n (d * spacing (n / d)) * spacing (n / d)

theorem grainLimit_pos : 0 < grainLimit := by
  unfold grainLimit
  generalize 2098 = k
  exact Nat.two_pow_pos k

theorem representable_zero : Representable 0 := ⟨grainLimit_pos, Nat.dvd_zero _⟩

theorem spacing_pos (g : Nat) : 0 < spacing g := Nat.two_pow_pos _

/-- Rounding a quotient adds at most one to its floor. -/
theorem divRoundEven_le (n d : Nat) : divRoundEven n d ≤ n / d + 1 := by
  unfold divRoundEven
  split
  · omega
  · split
    · omega
    · have := Nat.mod_lt (n / d) (show 0 < 2 by decide)
      omega

/-- The floor of a quotient by `d * spacing (n / d)` has at most 53 bits. -/
theorem div_mul_spacing_lt (n d : Nat) : n / (d * spacing (n / d)) < significandLimit := by
  rw [← Nat.div_div_eq_div_mul, Nat.div_lt_iff_lt_mul (spacing_pos _)]
  rcases Nat.eq_zero_or_pos (n / d) with h | h
  · rw [h]
    exact Nat.mul_pos (Nat.two_pow_pos _) (spacing_pos _)
  · have hlog : n / d < 2 ^ ((n / d).log2 + 1) :=
      (Nat.log2_lt (Nat.ne_of_gt h)).1 (Nat.lt_succ_self _)
    refine Nat.lt_of_lt_of_le hlog ?_
    show _ ≤ 2 ^ 53 * 2 ^ ((n / d).log2 - 52)
    rw [← Nat.pow_add]
    exact Nat.pow_le_pow_right (by decide) (by omega)

/-- A multiple of `2 ^ k` by at most `2 ^ 53` keeps the spacing of its size. -/
theorem spacing_dvd_of_le {m k : Nat} (h : m ≤ significandLimit) :
    spacing (m * Nat.pow 2 k) ∣ m * Nat.pow 2 k := by
  simp only [significandLimit, spacing, Nat.pow_eq] at *
  rcases Nat.eq_zero_or_pos m with h0 | h0
  · subst h0
    rw [Nat.zero_mul]
    exact Nat.dvd_zero _
  have hpos : m * 2 ^ k ≠ 0 := Nat.ne_of_gt (Nat.mul_pos h0 (Nat.two_pow_pos k))
  rcases Nat.lt_or_eq_of_le h with hlt | heq
  · have hlog : (m * 2 ^ k).log2 < 53 + k := by
      rw [Nat.log2_lt hpos, Nat.pow_add]
      exact Nat.mul_lt_mul_of_pos_right hlt (Nat.two_pow_pos k)
    exact Nat.dvd_trans (Nat.pow_dvd_pow 2 (show (m * 2 ^ k).log2 - 52 ≤ k by omega))
      (Nat.dvd_mul_left _ _)
  · subst heq
    rw [← Nat.pow_add] at *
    exact Nat.pow_dvd_pow 2 (by rw [Nat.log2_two_pow]; omega)

/-- A rounded count is representable, unless it is too large. -/
theorem spacing_dvd_nearest (n d : Nat) : spacing (nearest n d) ∣ nearest n d := by
  refine spacing_dvd_of_le (k := (n / d).log2 - 52) ?_
  have h1 := divRoundEven_le n (d * spacing (n / d))
  have h2 := div_mul_spacing_lt n d
  omega

end Binary64

inductive Binary64 where
  /-- A signed whole number of grains; zero has both signs. -/
  | finite (negative : Bool) (grains : Nat) (representable : Binary64.Representable grains)
  /-- An infinity. -/
  | infinite (negative : Bool)
  /-- The value that is not a number. -/
  | notANumber
  deriving DecidableEq, Repr

namespace Binary64

/-- The number nearest to `n / d` grains, with the given sign. -/
def round (negative : Bool) (n d : Nat) : Binary64 :=
  if h : nearest n d < grainLimit then
    .finite negative (nearest n d) ⟨h, spacing_dvd_nearest n d⟩
  else .infinite negative

/-- A zero of the given sign. -/
def zero (negative : Bool) : Binary64 := .finite negative 0 representable_zero

instance : Inhabited Binary64 := ⟨zero false⟩

/-- The signed count of a finite number. -/
def signedGrains (negative : Bool) (grains : Nat) : Int :=
  if negative then -(grains : Int) else grains

/-- The number nearest to a signed count; an exact zero takes the given sign. -/
def roundSigned (count : Int) (zeroSign : Bool) : Binary64 :=
  if count = 0 then zero zeroSign else round (count < 0) count.natAbs 1

def neg : Binary64 → Binary64
  | .finite s g h => .finite (!s) g h
  | .infinite s => .infinite (!s)
  | .notANumber => .notANumber

/-- The exact sum, rounded once. Opposite numbers give the positive zero. -/
def add : Binary64 → Binary64 → Binary64
  | .finite s a _, .finite t b _ =>
    roundSigned (signedGrains s a + signedGrains t b) (s && t)
  | .infinite s, .infinite t => if s = t then .infinite s else .notANumber
  | .infinite s, .finite .. => .infinite s
  | .finite .., .infinite t => .infinite t
  | .notANumber, _ => .notANumber
  | _, .notANumber => .notANumber

def sub (x y : Binary64) : Binary64 := x.add y.neg

/-- The exact product, rounded once. -/
def mul : Binary64 → Binary64 → Binary64
  | .finite s a _, .finite t b _ => round (s != t) (a * b) grainsPerUnit
  | .infinite s, .infinite t => .infinite (s != t)
  | .infinite s, .finite t b _ => if b = 0 then .notANumber else .infinite (s != t)
  | .finite s a _, .infinite t => if a = 0 then .notANumber else .infinite (s != t)
  | .notANumber, _ => .notANumber
  | _, .notANumber => .notANumber

/-- The exact quotient, rounded once. A zero divisor gives an infinity or, under
a zero, no number. -/
def div : Binary64 → Binary64 → Binary64
  | .finite s a _, .finite t b _ =>
    if b = 0 then (if a = 0 then .notANumber else .infinite (s != t))
    else round (s != t) (a * grainsPerUnit) b
  | .infinite _, .infinite _ => .notANumber
  | .infinite s, .finite t _ _ => .infinite (s != t)
  | .finite s _ _, .infinite t => zero (s != t)
  | .notANumber, _ => .notANumber
  | _, .notANumber => .notANumber

instance : Neg Binary64 := ⟨neg⟩
instance : Add Binary64 := ⟨add⟩
instance : Sub Binary64 := ⟨sub⟩
instance : Mul Binary64 := ⟨mul⟩
instance : Div Binary64 := ⟨div⟩

/-- Whether the first number is the smaller. No comparison with a value that is
not a number holds, and the two zeros are equal. -/
def less : Binary64 → Binary64 → Bool
  | .finite s a _, .finite t b _ => signedGrains s a < signedGrains t b
  | .finite .., .infinite t => !t
  | .infinite s, .finite .. => s
  | .infinite s, .infinite t => s && !t
  | .notANumber, _ => false
  | _, .notANumber => false

/-- Whether the first number is at most the second. -/
def atMost : Binary64 → Binary64 → Bool
  | .finite s a _, .finite t b _ => signedGrains s a ≤ signedGrains t b
  | .finite .., .infinite t => !t
  | .infinite s, .finite .. => s
  | .infinite s, .infinite t => s || !t
  | .notANumber, _ => false
  | _, .notANumber => false

instance : LT Binary64 := ⟨fun x y => x.less y = true⟩
instance : LE Binary64 := ⟨fun x y => x.atMost y = true⟩
instance (x y : Binary64) : Decidable (x < y) := inferInstanceAs (Decidable (_ = true))
instance (x y : Binary64) : Decidable (x ≤ y) := inferInstanceAs (Decidable (_ = true))

def isInfinite : Binary64 → Bool
  | .infinite _ => true
  | _ => false

/-- The number nearest to the quotient `n / d` of whole numbers, for `d ≠ 0`. -/
def quotient (n d : Int) : Binary64 :=
  round ((n < 0) != (d < 0)) (n.natAbs * grainsPerUnit) d.natAbs

/-- The quotient of two whole numbers, refused if it is too large. -/
def quotient? (n d : Int) : Except ArithmeticFault Binary64 :=
  if d = 0 then .error .zeroDivisor
  else if (quotient n d).isInfinite then .error .overflow
  else .ok (quotient n d)

/-- The number nearest to a whole number, refused if it is too large. -/
def ofInt? (n : Int) : Except ArithmeticFault Binary64 := quotient? n 1

/-- The number nearest to `digits * 10 ^ exponent`. The first two cases only spare
the computation of a power that cannot matter. -/
def ofDecimal (negative : Bool) (digits : Nat) (exponent : Int) : Binary64 :=
  if digits = 0 then zero negative
  else if 400 < exponent then .infinite negative
  else if (digits.log2 : Int) + 3 * exponent < -1100 then zero negative
  else if 0 ≤ exponent then round negative (digits * Nat.pow 10 exponent.toNat * grainsPerUnit) 1
  else round negative (digits * grainsPerUnit) (Nat.pow 10 (-exponent).toNat)

instance : OfScientific Binary64 where
  ofScientific digits negativeExponent exponent :=
    ofDecimal false digits (if negativeExponent then -(exponent : Int) else exponent)

instance (n : Nat) : OfNat Binary64 n := ⟨ofDecimal false n 0⟩

/-- The greatest whole number that is at most `x`. -/
def floor? : Binary64 → Except ArithmeticFault Int
  | .finite s g _ => .ok (signedGrains s g / (grainsPerUnit : Int))
  | .infinite _ => .error .overflow
  | .notANumber => .error .notANumber

/-- The least whole number that is at least `x`. -/
def ceil? (x : Binary64) : Except ArithmeticFault Int := (- ·) <$> (-x).floor?

/-- The value of a finite number. -/
def toRat? : Binary64 → Option Rat
  | .finite s g _ => some (mkRat (signedGrains s g) grainsPerUnit)
  | _ => none

end Binary64

end ExpectedDamage
