import ExpectedDamage.Number.Fault
import ExpectedDamage.Record.Value
/-!
# Readers of YAML

YAML is a large language. What the value of a document is, is left to a reader that comes
from elsewhere: it gives the value, or finds that the text is no document, or ends in some
other way that whoever reads the document does not expect. Nothing else is asked of it.

A key that is no text names no field, so an object is given without it; where all keys are
taken, as they are for the modifiers of a character, an object that has one is a value of
another kind.
-/

namespace ExpectedDamage.Document.Yaml

open Record

/-- Why a reader gives no value. -/
inductive Fault where
  | malformed
  /-- The text is a document, but one of its scalars ended the reading, as a number with too
  many digits does, a day that no calendar has, or a word that is marked as a truth value. -/
  | escaped (fault : ArithmeticFault)
  deriving DecidableEq, Repr

/-- A reader of documents. -/
abbrev Reader := List Char → Except Fault Value

end ExpectedDamage.Document.Yaml
