/-!
# Reading with all problems

A record is read field by field, and a reader wants to hear of every problem in
it, not of the first one only. So `Checked` combines as an applicative functor:
two refusals put their problems one after the other, in the order of the fields.
`andThen` is for a check that makes sense on a value already read.
-/

namespace ExpectedDamage.Record

/-- What is wrong with a value. -/
inductive ProblemKind where
  | missing
  | recordExpected
  | textExpected
  | listExpected
  | objectExpected
  | wholeExpected
  | wholeUnreadable
  | wholeTooLarge
  | wholeFractional
  | notFinite
  | realExpected
  | realUnreadable
  | boolExpected
  | boolUnreadable
  | tooSmall
  | tooLarge
  | notAChoice
  deriving DecidableEq, Repr

/-- The code of a problem, as messages show it. -/
def ProblemKind.code : ProblemKind → String
  | missing => "missing"
  | recordExpected => "model_type"
  | textExpected => "string_type"
  | listExpected => "list_type"
  | objectExpected => "dict_type"
  | wholeExpected => "int_type"
  | wholeUnreadable => "int_parsing"
  | wholeTooLarge => "int_parsing_size"
  | wholeFractional => "int_from_float"
  | notFinite => "finite_number"
  | realExpected => "float_type"
  | realUnreadable => "float_parsing"
  | boolExpected => "bool_type"
  | boolUnreadable => "bool_parsing"
  | tooSmall => "greater_than_equal"
  | tooLarge => "less_than_equal"
  | notAChoice => "literal_error"

/-- A problem and the keys that lead to it. -/
structure Problem where
  path : List String
  kind : ProblemKind
  deriving DecidableEq, Repr

namespace Problem

def text (p : Problem) : String := ".".intercalate p.path ++ ": " ++ p.kind.code

def texts (problems : List Problem) : String := "; ".intercalate (problems.map text)

end Problem

/-- What was read, or every problem of the value. -/
inductive Checked (α : Type) where
  | ok (a : α)
  | refused (problems : List Problem)
  deriving DecidableEq, Repr

namespace Checked

variable {α β : Type}

def fault (kind : ProblemKind) : Checked α := .refused [⟨[], kind⟩]

def seq (f : Checked (α → β)) (x : Checked α) : Checked β :=
  match f, x with
  | .ok f, .ok a => .ok (f a)
  | .ok _, .refused qs => .refused qs
  | .refused ps, .ok _ => .refused ps
  | .refused ps, .refused qs => .refused (ps ++ qs)

instance : Applicative Checked where
  pure := .ok
  seq f x := seq f (x ())

/-- A further check of what was read. -/
def andThen (x : Checked α) (f : α → Checked β) : Checked β :=
  match x with
  | .ok a => f a
  | .refused ps => .refused ps

/-- The same outcome, one key deeper. -/
def under (key : String) : Checked α → Checked α
  | .ok a => .ok a
  | .refused ps => .refused (ps.map fun p => { p with path := key :: p.path })

@[simp] theorem seq_ok_ok (f : α → β) (a : α) :
    (.ok f : Checked (α → β)) <*> .ok a = .ok (f a) := rfl

@[simp] theorem map_ok (f : α → β) (a : α) : f <$> (.ok a : Checked α) = .ok (f a) := rfl

@[simp] theorem under_ok (key : String) (a : α) : under key (.ok a) = .ok a := rfl

end Checked

end ExpectedDamage.Record
