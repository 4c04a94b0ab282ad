import ExpectedDamage.Keyed
import ExpectedDamage.Record.Checked
import ExpectedDamage.Record.Value
/-!
# Fields of a record

A field is given under its name or under a second name. If both are given the
second name wins; a problem of the value is reported under the name that was
used, and a missing field under the second name. Keys that are no field are
passed over.
-/

namespace ExpectedDamage.Record

/-- The names of a field. -/
structure FieldName where
  name : String
  other : String
  deriving DecidableEq, Repr

namespace FieldName

def plain (name : String) : FieldName := ⟨name, name⟩

/-- The name under which the field is given, and its value. -/
def find? (f : FieldName) (fields : List (String × Value)) : Option (String × Value) :=
  match Keyed.lookup? fields f.other with
  | some v => some (f.other, v)
  | none => (Keyed.lookup? fields f.name).map fun v => (f.name, v)

variable {α : Type}

/-- A field that takes a value of its own if it is not given. -/
def orElse (f : FieldName) (default : α) (read : Value → Checked α)
    (fields : List (String × Value)) : Checked α :=
  match f.find? fields with
  | some (key, v) => (read v).under key
  | none => .ok default

def required (f : FieldName) (read : Value → Checked α) (fields : List (String × Value)) :
    Checked α :=
  match f.find? fields with
  | some (key, v) => (read v).under key
  | none => .refused [⟨[f.other], .missing⟩]

end FieldName

/-- A record: an object whose fields are read. -/
def Value.asRecord {α : Type} (read : List (String × Value) → Checked α) : Value → Checked α
  | .object fields => read fields
  | _ => .fault .recordExpected

end ExpectedDamage.Record
