/-!
# Sums of whole numbers

`wholeSum` adds a list of whole numbers: the faces of kept dice, the modifiers of an
expression, the slots of a day. The sum of an appended list is the sum of the sums of
its parts (`wholeSum_append`).
-/

namespace ExpectedDamage

def wholeSum (numbers : List Int) : Int := numbers.foldr (· + ·) 0

@[simp] theorem wholeSum_nil : wholeSum [] = 0 := rfl

@[simp] theorem wholeSum_cons (n : Int) (numbers : List Int) :
    wholeSum (n :: numbers) = n + wholeSum numbers := rfl

/-- The sum splits an appended list. -/
@[simp] theorem wholeSum_append (first second : List Int) :
    wholeSum (first ++ second) = wholeSum first + wholeSum second := by
  induction first with
  | nil => simp
  | cons n numbers ih =>
    rw [List.cons_append, wholeSum_cons, wholeSum_cons, ih, Int.add_assoc]

end ExpectedDamage
