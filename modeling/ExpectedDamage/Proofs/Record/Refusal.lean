import ExpectedDamage.Proofs.Record.Reading
import ExpectedDamage.Spell.Basic
import Mathlib.Tactic.SplitIfs
/-!
# What a refusal tells

A reading that refuses a value tells at least one problem (`Explained`). The readings of single
values refuse with a problem, and whatever is put together from explained readings is
explained, so a spell is never refused without a word (`Spell.explained_read`).
-/

namespace ExpectedDamage

namespace Record

variable {α β : Type}

/-- The reading does not refuse without a problem. -/
def Explained (x : Checked α) : Prop := x ≠ .refused []

namespace Explained

theorem ok (a : α) : Explained (.ok a) := nofun

theorem fault (kind : ProblemKind) : Explained (Checked.fault kind : Checked α) := nofun

theorem map (f : α → β) {x : Checked α} (h : Explained x) : Explained (f <$> x) := by
  cases x with
  | ok a => exact ok (f a)
  | refused problems =>
      intro hrefused
      exact h (congrArg Checked.refused (Checked.refused.inj hrefused))

theorem seq {f : Checked (α → β)} {x : Checked α} (hf : Explained f) (hx : Explained x) :
    Explained (f <*> x) := by
  cases f with
  | ok g => exact hx.map g
  | refused ps =>
      have hps : ps ≠ [] := fun h => hf (congrArg _ h)
      cases x with
      | ok a =>
          intro hrefused
          exact hps (Checked.refused.inj hrefused)
      | refused qs =>
          intro hrefused
          exact hps (List.append_eq_nil_iff.1 (Checked.refused.inj hrefused)).1

theorem under {key : String} {x : Checked α} (h : Explained x) : Explained (x.under key) := by
  cases x with
  | ok a => exact ok a
  | refused problems =>
      intro hrefused
      exact h (congrArg _ (List.map_eq_nil_iff.1 (Checked.refused.inj hrefused)))

theorem andThen {x : Checked α} {f : α → Checked β} (hx : Explained x)
    (hf : ∀ a, Explained (f a)) : Explained (x.andThen f) := by
  cases x with
  | ok a => exact hf a
  | refused problems =>
      intro hrefused
      exact hx (congrArg _ (Checked.refused.inj hrefused))

section Fields

variable {read : Value → Checked α} (hread : ∀ v, Explained (read v))

include hread

theorem orElse (f : FieldName) (default : α) (fields : List (String × Value)) :
    Explained (f.orElse default read fields) := by
  rw [FieldName.orElse]
  split
  · exact (hread _).under
  · exact ok default

theorem required (f : FieldName) (fields : List (String × Value)) :
    Explained (f.required read fields) := by
  rw [FieldName.required]
  split
  · exact (hread _).under
  · exact nofun

theorem orNull (v : Value) : Explained (v.orNull read) := by
  cases v with
  | null => exact ok none
  | _ => exact (hread _).map some

theorem itemsFrom (place : Nat) (items : List Value) :
    Explained (Value.itemsFrom read place items) := by
  induction items generalizing place with
  | nil => exact ok []
  | cons item rest ih => exact ((hread item).under.map List.cons).seq (ih (place + 1))

theorem asList (v : Value) : Explained (v.asList read) := by
  cases v with
  | list items => exact itemsFrom hread 0 items
  | _ => exact fault .listExpected

end Fields

theorem asText (v : Value) : Explained v.asText := by
  cases v with
  | text s => exact ok s
  | _ => exact fault .textExpected

theorem wholeOfReal (x : Binary64) : Explained (Value.wholeOfReal x) := by
  rw [Value.wholeOfReal]
  split
  · split_ifs
    · exact fault _
    · exact ok _
    · exact fault _
  · exact fault .notFinite

theorem asInt (v : Value) : Explained v.asInt := by
  cases v with
  | int n => exact ok n
  | bool b => exact ok _
  | real x => exact wholeOfReal x
  | text s =>
      rw [Value.asInt]
      split
      · exact ok _
      · exact fault _
      · exact fault _
  | _ => exact fault .wholeExpected

theorem asBetween (low high : Int) (v : Value) : Explained (v.asBetween low high) := by
  refine (asInt v).andThen fun n => ?_
  split_ifs
  · exact ok _
  · exact fault _
  · exact fault _

theorem boolOfWord (n : Int) : Explained (Value.boolOfWord n) := by
  rw [Value.boolOfWord]
  split_ifs
  · exact ok _
  · exact ok _
  · exact fault _

theorem asBool (v : Value) : Explained v.asBool := by
  cases v with
  | bool b => exact ok b
  | int n =>
      rw [Value.asBool]
      split_ifs
      · exact boolOfWord n
      · exact fault _
  | real x =>
      rw [Value.asBool]
      split
      · exact boolOfWord _
      · exact fault _
  | text s =>
      simp only [Value.asBool]
      split_ifs
      · exact ok _
      · exact ok _
      · exact fault _
  | _ => exact fault .boolExpected

end Explained

end Record

open Record

/-- A spell that is refused has a problem. -/
theorem Spell.explained_read (v : Value) : Explained (Spell.read v) := by
  have text (v : Value) : Explained (v.orNull Value.asText) := .orNull .asText v
  have texts (v : Value) : Explained (v.asList Value.asText) := .asList .asText v
  cases v with
  | object fields =>
      refine Explained.seq (.seq (.seq (.seq (.seq (.seq (.seq (.seq (.seq (.seq (.seq (.seq (.seq
        (.seq (.seq (.seq (.map _ ?key) ?name) ?level) ?school) ?castingTime) ?range) ?duration)
        ?concentration) ?ritual) ?damageRoll) ?damageTypes) ?savingThrow) ?attackRoll) ?classes)
        ?description) ?higherLevel) ?source
      case name => exact .required .asText _ _
      case key | description => exact .orElse .asText _ _ _
      case level => exact .orElse (.asBetween 0 9) _ _ _
      case concentration | ritual | attackRoll => exact .orElse .asBool _ _ _
      case damageTypes | classes => exact .orElse texts _ _ _
      all_goals exact .orElse text _ _ _
  | _ => exact .fault .recordExpected

end ExpectedDamage
