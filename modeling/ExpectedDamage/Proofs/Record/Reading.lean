import ExpectedDamage.Record.Field
/-!
# Readings that succeed

A reading succeeds exactly if all its parts do. A field that may be left out is `Updated`:
it takes what it is given for, once that is read, and keeps its value otherwise. Entries
that are merged are looked up from the last one on (`Keyed.lookup?_merge`).
-/

namespace ExpectedDamage

namespace Keyed

variable {α : Type}

theorem lookup?_insert (entries : List (String × α)) (key other : String) (value : α) :
    lookup? (insert key value entries) other =
      if key = other then some value else lookup? entries other := by
  induction entries with
  | nil => by_cases h : key = other <;> simp [insert, lookup?, h]
  | cons entry rest ih =>
      obtain ⟨k, v⟩ := entry
      rw [insert]
      by_cases hk : k = key
      · subst hk
        by_cases h : k = other <;> simp [lookup?, h]
      · rw [if_neg hk]
        by_cases h : k = other
        · have hne : ¬ key = other := fun heq => hk (h.trans heq.symm)
          simp [lookup?, h, hne]
        · simpa [lookup?, h] using ih

theorem lookup?_append (entries more : List (String × α)) (key : String) :
    lookup? (entries ++ more) key = (lookup? entries key).or (lookup? more key) := by
  rw [lookup?, lookup?, lookup?, List.find?_append]
  cases entries.find? (·.1 == key) <;> rfl

/-- Of several changes under one key the last one counts. -/
theorem lookup?_merge (entries changes : List (String × α)) (key : String) :
    lookup? (merge entries changes) key =
      (lookup? changes.reverse key).or (lookup? entries key) := by
  induction changes generalizing entries with
  | nil => rfl
  | cons change rest ih =>
      obtain ⟨k, v⟩ := change
      have hstep : merge entries ((k, v) :: rest) = merge (insert k v entries) rest := rfl
      rw [hstep, ih, lookup?_insert, List.reverse_cons, lookup?_append, Option.or_assoc]
      congr 1
      by_cases h : k = key <;> simp [lookup?, h]

end Keyed

namespace Record

namespace Checked

variable {α β : Type}

theorem map_eq_ok_iff {f : α → β} {x : Checked α} {b : β} :
    f <$> x = .ok b ↔ ∃ a, x = .ok a ∧ f a = b := by
  cases x with
  | refused problems => exact ⟨nofun, nofun⟩
  | ok a => simp

theorem seq_eq_ok_iff {f : Checked (α → β)} {x : Checked α} {b : β} :
    f <*> x = .ok b ↔ ∃ g a, f = .ok g ∧ x = .ok a ∧ g a = b := by
  cases f with
  | refused problems => cases x <;> exact ⟨nofun, nofun⟩
  | ok g =>
      cases x with
      | refused problems => exact ⟨nofun, nofun⟩
      | ok a => simp

theorem under_eq_ok_iff {key : String} {x : Checked α} {a : α} :
    under key x = .ok a ↔ x = .ok a := by
  cases x with
  | refused problems => exact ⟨nofun, nofun⟩
  | ok a => rfl

theorem andThen_eq_ok_iff {x : Checked α} {f : α → Checked β} {b : β} :
    x.andThen f = .ok b ↔ ∃ a, x = .ok a ∧ f a = .ok b := by
  cases x with
  | refused problems => exact ⟨nofun, nofun⟩
  | ok a => simp [andThen]

end Checked

variable {α : Type}

/-- A value after a change: what the change gives, as it is read, or else what it was. -/
def Updated (read : Value → Checked α) (change : Option Value) (old new : α) : Prop :=
  match change with
  | some v => read v = .ok new
  | none => new = old

namespace FieldName

theorem find?_plain (name : String) (fields : List (String × Value)) :
    (plain name).find? fields = (Keyed.lookup? fields name).map fun v => (name, v) := by
  rw [find?, plain]
  cases Keyed.lookup? fields name <;> rfl

theorem orElse_plain_eq_ok_iff {name : String} {old new : α} {read : Value → Checked α}
    {fields : List (String × Value)} : (plain name).orElse old read fields = .ok new ↔
      Updated read (Keyed.lookup? fields name) old new := by
  rw [orElse, find?_plain]
  cases Keyed.lookup? fields name with
  | none =>
      constructor
      · intro h
        exact (Checked.ok.inj h).symm
      · rintro rfl
        rfl
  | some v => exact Checked.under_eq_ok_iff

end FieldName

end Record

end ExpectedDamage
