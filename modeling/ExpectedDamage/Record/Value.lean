import ExpectedDamage.Number.Binary64
/-!
# Values of documents

What a document or an argument holds before it is read as a record. Whole and
binary64 numbers are different values, because a reader may accept the one and
not the other. The fields of an object are kept in the order in which their keys were
first given. A document may hold more than JSON has words for, a date for one; no field
takes such a value, so nothing is kept of it.
-/

namespace ExpectedDamage.Record

/-- A value of a document. -/
inductive Value where
  | null
  | bool (b : Bool)
  | int (n : Int)
  | real (x : Binary64)
  | text (s : String)
  | list (items : List Value)
  | object (fields : List (String × Value))
  /-- A value of a kind that no field takes. -/
  | other
  deriving Inhabited, Repr

namespace Value

def ofOption {α : Type} (f : α → Value) : Option α → Value
  | some a => f a
  | none => null

end Value

end ExpectedDamage.Record
