/-!
# Blank characters

White space of Unicode, together with the four separators of ASCII (codes 28 to
31).
-/

namespace ExpectedDamage.Text

/-- The blank characters beyond ASCII, as ranges of codes. -/
def blankRanges : List (Nat × Nat) :=
  [(0x85, 0x85), (0xA0, 0xA0), (0x1680, 0x1680), (0x2000, 0x200A), (0x2028, 0x2029),
   (0x202F, 0x202F), (0x205F, 0x205F), (0x3000, 0x3000)]

def isBlank (c : Char) : Bool :=
  if c.toNat < 128 then c == ' ' || (9 ≤ c.toNat && c.toNat ≤ 13) || (28 ≤ c.toNat && c.toNat ≤ 31)
  else blankRanges.any fun r => r.1 ≤ c.toNat && c.toNat ≤ r.2

/-- Whether the character is white space, which the separators of ASCII are not. -/
def isWhiteSpace (c : Char) : Bool := isBlank c && !(28 ≤ c.toNat && c.toNat ≤ 31)

/-- The text without characters of a kind at its ends. -/
def trimOf (isTrimmed : Char → Bool) (cs : List Char) : List Char :=
  ((cs.dropWhile isTrimmed).reverse.dropWhile isTrimmed).reverse

/-- The text without blanks at its ends. -/
def trim (cs : List Char) : List Char := trimOf isBlank cs

end ExpectedDamage.Text
