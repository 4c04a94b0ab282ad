import ExpectedDamage.Proofs.Record.Reading
/-!
# What a reading answers

A reading answers with a value or with problems, and the two can be told apart part by part.
Its problems depend on what the fields give and not on the values that stand in for fields
that are not given (`FieldName.refusal?_orElse`); its value depends on what the fields give
and not on the names under which they give it (`FieldName.value?_orElse`).
-/

namespace ExpectedDamage.Record

namespace Checked

variable {α β : Type}

/-- The problems, if there are any. -/
def refusal? : Checked α → Option (List Problem)
  | .ok _ => none
  | .refused problems => some problems

/-- What was read, if nothing is wrong with it. -/
def value? : Checked α → Option α
  | .ok a => some a
  | .refused _ => none

theorem refusal?_eq_some_iff {x : Checked α} {problems : List Problem} :
    x.refusal? = some problems ↔ x = .refused problems := by
  cases x with
  | ok a => exact iff_of_false nofun nofun
  | refused ps => simp [refusal?]

@[simp] theorem refusal?_map (f : α → β) (x : Checked α) :
    (f <$> x).refusal? = x.refusal? := by
  cases x <;> rfl

/-- Two refusals put their problems one after the other. -/
@[simp] theorem refusal?_seq (f : Checked (α → β)) (x : Checked α) :
    (f <*> x).refusal? = Option.merge (· ++ ·) f.refusal? x.refusal? := by
  cases f <;> cases x <;> rfl

/-- A further check whose problems are the same for all values finds the same ones after two
readings with the same problems. -/
theorem refusal?_andThen_congr {x y : Checked α} {f g : α → Checked β}
    (h : x.refusal? = y.refusal?) (hfg : ∀ a b, (f a).refusal? = (g b).refusal?) :
    (x.andThen f).refusal? = (y.andThen g).refusal? := by
  cases x with
  | ok a =>
      cases y with
      | ok b => exact hfg a b
      | refused problems => exact nomatch h
  | refused problems =>
      obtain rfl := refusal?_eq_some_iff.1 h.symm
      rfl

/-- All problems; none if the value was read. -/
def problems : Checked α → List Problem
  | .ok _ => []
  | .refused problems => problems

@[simp] theorem problems_ok (a : α) : (ok a).problems = [] := rfl

@[simp] theorem problems_map (f : α → β) (x : Checked α) : (f <$> x).problems = x.problems := by
  cases x <;> rfl

@[simp] theorem problems_seq (f : Checked (α → β)) (x : Checked α) :
    (f <*> x).problems = f.problems ++ x.problems := by
  cases f with
  | ok g => cases x <;> rfl
  | refused ps =>
      cases x with
      | ok a => exact (List.append_nil ps).symm
      | refused qs => rfl

theorem eq_refused_problems {x : Checked α} (h : x.problems ≠ []) : x = .refused x.problems := by
  cases x with
  | ok a => exact absurd rfl h
  | refused problems => rfl

theorem value?_eq_some_iff {x : Checked α} {a : α} : x.value? = some a ↔ x = .ok a := by
  cases x with
  | ok b => simp [value?]
  | refused problems => exact iff_of_false nofun nofun

theorem eq_ok_iff_of_value?_eq {x y : Checked α} (h : x.value? = y.value?) (a : α) :
    x = .ok a ↔ y = .ok a := by
  rw [← value?_eq_some_iff, ← value?_eq_some_iff, h]

@[simp] theorem value?_map (f : α → β) (x : Checked α) : (f <$> x).value? = x.value?.map f := by
  cases x <;> rfl

@[simp] theorem value?_seq (f : Checked (α → β)) (x : Checked α) :
    (f <*> x).value? = f.value?.bind fun g => x.value?.map g := by
  cases f <;> cases x <;> rfl

@[simp] theorem value?_under (key : String) (x : Checked α) :
    (x.under key).value? = x.value? := by
  cases x <;> rfl

end Checked

variable {α : Type}

namespace FieldName

/-- The value that is given for a field, under whichever of its names. -/
def given? (f : FieldName) (fields : List (String × Value)) : Option Value :=
  (Keyed.lookup? fields f.other).or (Keyed.lookup? fields f.name)

theorem given?_eq_map_find? (f : FieldName) (fields : List (String × Value)) :
    f.given? fields = (f.find? fields).map Prod.snd := by
  rw [given?, find?]
  cases Keyed.lookup? fields f.other with
  | some v => rfl
  | none =>
      rw [Option.none_or, Option.map_map]
      exact Option.map_id'.symm

theorem refusal?_orElse (f : FieldName) (default : α) (read : Value → Checked α)
    (fields : List (String × Value)) : (f.orElse default read fields).refusal? =
      (f.find? fields).bind fun (key, v) => ((read v).under key).refusal? := by
  rw [orElse]
  cases f.find? fields <;> rfl

theorem value?_orElse (f : FieldName) (default : α) (read : Value → Checked α)
    (fields : List (String × Value)) : (f.orElse default read fields).value? =
      ((f.given? fields).map fun v => (read v).value?).getD (some default) := by
  rw [orElse, given?_eq_map_find?]
  cases f.find? fields with
  | none => rfl
  | some entry => exact Checked.value?_under entry.1 (read entry.2)

theorem value?_required (f : FieldName) (read : Value → Checked α)
    (fields : List (String × Value)) : (f.required read fields).value? =
      (f.given? fields).bind fun v => (read v).value? := by
  rw [required, given?_eq_map_find?]
  cases f.find? fields with
  | none => rfl
  | some entry => exact Checked.value?_under entry.1 (read entry.2)

end FieldName

end ExpectedDamage.Record
