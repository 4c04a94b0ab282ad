import ExpectedDamage.Record.Field
import ExpectedDamage.Record.Scalar
/-!
# Values that are read back

A reader reads back what a writer gives if every value that was written is read as what it was
(`ReadsBack`). The readers of single values do so, and those of options, lists and objects do
so if the reader of their parts does.
-/

namespace ExpectedDamage.Record

variable {α : Type}

/-- Whatever is written is read as what it was. -/
def ReadsBack (read : Value → Checked α) (write : α → Value) : Prop :=
  ∀ a, read (write a) = .ok a

/-- A record is written with each field under its first name, and is read back. -/
structure Reloads (names : List FieldName) (read : Value → Checked α) (write : α → Value) :
    Prop where
  firstNames : ∀ a, ∃ fields, write a = .object fields ∧
    fields.map Prod.fst = names.map FieldName.name
  readsBack : ReadsBack read write

namespace ReadsBack

theorem asText : ReadsBack Value.asText .text := fun _ => rfl

theorem asInt : ReadsBack Value.asInt .int := fun _ => rfl

theorem asBetween (low high : Int) :
    ReadsBack (Value.asBetween low high) fun n => .int n.val := fun n => dif_pos n.property

theorem asAtLeast (low : Int) : ReadsBack (Value.asAtLeast low) fun n => .int n.val :=
  fun n => dif_pos n.property

variable {read : Value → Checked α} {write : α → Value}

/-- An option is read back if null is never written for a value that is there. -/
theorem orNull (h : ReadsBack read write) (hnull : ∀ a, write a ≠ .null) :
    ReadsBack (Value.orNull read) (.ofOption write) := by
  intro a
  cases a with
  | none => rfl
  | some a =>
      have hsome : Value.orNull read (write a) = some <$> read (write a) := by
        cases hwrite : write a with
        | null => exact absurd hwrite (hnull a)
        | _ => rfl
      rw [Value.ofOption, hsome, h a]
      rfl

theorem itemsFrom (h : ReadsBack read write) (place : Nat) (items : List α) :
    Value.itemsFrom read place (items.map write) = .ok items := by
  induction items generalizing place with
  | nil => rfl
  | cons a items ih =>
      rw [List.map_cons, Value.itemsFrom, h a, ih]
      rfl

theorem asList (h : ReadsBack read write) :
    ReadsBack (Value.asList read) fun items => .list (items.map write) :=
  fun items => h.itemsFrom 0 items

theorem entries (h : ReadsBack read write) (entries : List (String × α)) :
    Value.entries read (entries.map fun (key, a) => (key, write a)) = .ok entries := by
  induction entries with
  | nil => rfl
  | cons entry entries ih =>
      obtain ⟨key, a⟩ := entry
      rw [List.map_cons, Value.entries, h a, ih]
      rfl

theorem asObject (h : ReadsBack read write) :
    ReadsBack (Value.asObject read) fun entries =>
      .object (entries.map fun (key, a) => (key, write a)) :=
  h.entries

end ReadsBack

end ExpectedDamage.Record
