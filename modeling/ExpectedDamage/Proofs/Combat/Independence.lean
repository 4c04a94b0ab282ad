import ExpectedDamage.Proofs.Combat.Overrides
import ExpectedDamage.Proofs.Record.Outcome
/-!
# Independent changes

Whether a change of a context is accepted, and with which problems it is refused otherwise,
is a matter of the change alone (`Context.refusal?_withChanges`). So a change meets the same
answer before and after another one, and two changes that share no field end in the same
context in either order (`Context.step_comm_of_independent`). Changes of saving throws share
none if no ability is named by both of them.
-/

namespace ExpectedDamage.Record

theorem Updated.unique {α : Type} {read : Value → Checked α} {change : Option Value}
    {old x y : α} (hx : Updated read change old x) (hy : Updated read change old y) : x = y := by
  cases change with
  | none => exact Eq.trans hx (Eq.symm hy)
  | some v => exact Checked.ok.inj (Eq.trans (Eq.symm hx) hy)

/-- Two changes of one value, of which one gives nothing, can be made in either order. -/
theorem Updated.comm {α : Type} {read : Value → Checked α} {change change' : Option Value}
    (hfree : change = none ∨ change' = none) {old x y x' y' : α}
    (hx : Updated read change old x) (hy : Updated read change' x y)
    (hx' : Updated read change' old x') (hy' : Updated read change x' y') : y = y' := by
  rcases hfree with rfl | rfl
  · obtain rfl : x = old := hx
    obtain rfl : y' = x' := hy'
    exact hy.unique hx'
  · obtain rfl : y = x := hy
    obtain rfl : x' = old := hx'
    exact hx.unique hy'

end ExpectedDamage.Record

namespace ExpectedDamage.Combat

open Record

/-! Saving throws. -/

namespace Saves

theorem eq_of_bonus_eq {s t : Saves} (h : ∀ a, s.bonus a = t.bonus a) : s = t := by
  obtain ⟨_, _, _, _, _, _⟩ := s
  obtain ⟨_, _, _, _, _, _⟩ := t
  rw [mk.injEq]
  exact ⟨h .strength, h .dexterity, h .constitution, h .intelligence, h .wisdom, h .charisma⟩

theorem refusal?_withChanges (s t : Saves) (changes : List (String × Value)) :
    (s.withChanges changes).refusal? = (t.withChanges changes).refusal? := by
  simp only [withChanges, readOver, Checked.refusal?_seq, Checked.refusal?_map,
    FieldName.refusal?_orElse]

/-- Two changes of saving throws that share no ability: one of them changes none, or both
are made key by key and no ability is named by a key of each. -/
def Independent (change change' : Option Value) : Prop :=
  change = none ∨ change' = none ∨ ∃ bonuses bonuses', change = some (.object bonuses) ∧
    change' = some (.object bonuses') ∧
      ∀ a, lastNaming? a bonuses = none ∨ lastNaming? a bonuses' = none

theorem Changed.unique {change : Option Value} {old s t : Saves} (hs : Changed change old s)
    (ht : Changed change old t) : s = t := by
  cases change with
  | none => exact Eq.trans hs (Eq.symm ht)
  | some v =>
      cases v with
      | object bonuses => exact eq_of_bonus_eq fun a => (hs a).unique (ht a)
      | _ => exact hs.elim

theorem Changed.comm {change change' : Option Value} (h : Independent change change')
    {old x y x' y' : Saves} (hx : Changed change old x) (hy : Changed change' x y)
    (hx' : Changed change' old x') (hy' : Changed change x' y') : y = y' := by
  rcases h with rfl | rfl | ⟨bonuses, bonuses', rfl, rfl, hfree⟩
  · obtain rfl : x = old := hx
    obtain rfl : y' = x' := hy'
    exact hy.unique hx'
  · obtain rfl : y = x := hy
    obtain rfl : x' = old := hx'
    exact hx.unique hy'
  · exact eq_of_bonus_eq fun a => (hx a).comm (hfree a) (hy a) (hx' a) (hy' a)

end Saves

/-! Contexts. -/

namespace Context

/-- The fields of a context other than the bonuses of saving throws. -/
def plainFields : List String :=
  ["proficiency_bonus", "ability_modifier", "caster_level", "target_ac", "expected_targets",
    "expected_duration", "expected_encounters", "clustered"]

/-- Two changes that share no field. -/
structure Independent (changes changes' : List (String × Value)) : Prop where
  plain : ∀ name ∈ plainFields, given? changes name = none ∨ given? changes' name = none
  saves : Saves.Independent (given? changes "target_saves") (given? changes' "target_saves")

/-- Two changes that share no field lead to the same fields in either order. -/
theorem Overridden.comm {changes changes' : List (String × Value)}
    (h : Independent changes changes') {c d e d' e' : Context} (hd : c.Overridden changes d)
    (he : d.Overridden changes' e) (hd' : c.Overridden changes' d')
    (he' : d'.Overridden changes e') : e = e' := by
  obtain ⟨_, _, _, _, _, _, _, _, _⟩ := e
  obtain ⟨_, _, _, _, _, _, _, _, _⟩ := e'
  rw [mk.injEq]
  exact ⟨hd.proficiencyBonus.comm (h.plain _ (by decide)) he.proficiencyBonus
      hd'.proficiencyBonus he'.proficiencyBonus,
    hd.abilityModifier.comm (h.plain _ (by decide)) he.abilityModifier
      hd'.abilityModifier he'.abilityModifier,
    hd.casterLevel.comm (h.plain _ (by decide)) he.casterLevel hd'.casterLevel he'.casterLevel,
    hd.targetArmor.comm (h.plain _ (by decide)) he.targetArmor hd'.targetArmor he'.targetArmor,
    hd.targetSaves.comm h.saves he.targetSaves hd'.targetSaves he'.targetSaves,
    hd.expectedTargets.comm (h.plain _ (by decide)) he.expectedTargets
      hd'.expectedTargets he'.expectedTargets,
    hd.expectedDuration.comm (h.plain _ (by decide)) he.expectedDuration
      hd'.expectedDuration he'.expectedDuration,
    hd.expectedEncounters.comm (h.plain _ (by decide)) he.expectedEncounters
      hd'.expectedEncounters he'.expectedEncounters,
    hd.clustered.comm (h.plain _ (by decide)) he.clustered hd'.clustered he'.clustered⟩

theorem refusal?_readOver (c d : Context)
    {readSaves readSaves' : List (String × Value) → Checked Saves}
    {fields : List (String × Value)}
    (h : (readSaves fields).refusal? = (readSaves' fields).refusal?) :
    (c.readOver readSaves fields).refusal? = (d.readOver readSaves' fields).refusal? := by
  simp only [readOver, Checked.refusal?_seq, Checked.refusal?_map, FieldName.refusal?_orElse, h]

/-- The problems of a change do not depend on the context that is changed. -/
theorem refusal?_withChanges (c d : Context) (changes : List (String × Value)) :
    (c.withChanges changes).refusal? = (d.withChanges changes).refusal? := by
  rw [withChanges, withChanges]
  split
  · next bonuses _ =>
      apply Checked.refusal?_andThen_congr (Saves.refusal?_withChanges _ _ bonuses)
      intro saves saves'
      apply refusal?_readOver
      rfl
  · apply refusal?_readOver
    rw [FieldName.refusal?_orElse, FieldName.refusal?_orElse]

theorem withChanges_eq_refused_iff (c d : Context) {changes : List (String × Value)}
    {problems : List Problem} :
    c.withChanges changes = .refused problems ↔ d.withChanges changes = .refused problems := by
  rw [← Checked.refusal?_eq_some_iff, ← Checked.refusal?_eq_some_iff, refusal?_withChanges c d]

theorem step_of_ok {c d : Context} {changes : List (String × Value)}
    (h : c.withChanges changes = .ok d) : c.step changes = d := by
  rw [step, h]

theorem step_of_refused {c : Context} {changes : List (String × Value)} {problems : List Problem}
    (h : c.withChanges changes = .refused problems) : c.step changes = c := by
  rw [step, h]

/-- A change that is refused once is refused of every context, and so changes none. -/
theorem step_eq_self_of_refused {c : Context} {changes : List (String × Value)}
    {problems : List Problem} (h : c.withChanges changes = .refused problems) (d : Context) :
    d.step changes = d :=
  step_of_refused ((withChanges_eq_refused_iff d c).2 h)

/-- A change that is accepted once is accepted of every context. -/
theorem exists_withChanges_of_ok {c d : Context} {changes : List (String × Value)}
    (h : c.withChanges changes = .ok d) (c' : Context) :
    ∃ d', c'.withChanges changes = .ok d' := by
  cases hc' : c'.withChanges changes with
  | ok d' => exact ⟨d', rfl⟩
  | refused problems =>
      rw [(withChanges_eq_refused_iff c c').2 hc'] at h
      exact nomatch h

theorem step_step_comm (c : Context) {changes changes' : List (String × Value)}
    (h : Independent changes changes') :
    (c.step changes).step changes' = (c.step changes').step changes := by
  cases hd : c.withChanges changes with
  | refused problems => rw [step_eq_self_of_refused hd, step_eq_self_of_refused hd]
  | ok d =>
      cases hd' : c.withChanges changes' with
      | refused problems => rw [step_eq_self_of_refused hd', step_eq_self_of_refused hd']
      | ok d' =>
          obtain ⟨e, he⟩ := exists_withChanges_of_ok hd' d
          obtain ⟨e', he'⟩ := exists_withChanges_of_ok hd d'
          rw [step_of_ok hd, step_of_ok he, step_of_ok hd', step_of_ok he']
          exact Overridden.comm h (withChanges_eq_ok_iff.1 hd) (withChanges_eq_ok_iff.1 he)
            (withChanges_eq_ok_iff.1 hd') (withChanges_eq_ok_iff.1 he')

/-- A run of changes of which no two share a field ends in the same context in any order. -/
theorem foldl_step_perm {run run' : List (List (String × Value))} (hperm : run.Perm run')
    (h : run.Pairwise Independent) (c : Context) : run.foldl step c = run'.foldl step c := by
  have hcomm : ∀ ⦃changes⦄, changes ∈ run → ∀ ⦃changes'⦄, changes' ∈ run → ∀ d : Context,
      (d.step changes).step changes' = (d.step changes').step changes :=
    List.Pairwise.forall_of_forall_of_flip (fun _ _ _ => rfl)
      (h.imp fun hfree d => step_step_comm d hfree)
      (h.imp fun hfree d => (step_step_comm d hfree).symm)
  exact hperm.foldl_eq' (fun _ hmem _ hmem' d => hcomm hmem hmem' d) c

/-- Two changes that share no field, made one after the other with a refused one left out, end
in the same context in either order. Each is refused behind the other one exactly if it is
refused at once, with the same problems. -/
theorem step_comm_of_independent (c : Context) {changes changes' : List (String × Value)}
    (h : Independent changes changes') :
    (c.step changes).step changes' = (c.step changes').step changes ∧
      (∀ problems, (c.step changes').withChanges changes = .refused problems ↔
        c.withChanges changes = .refused problems) ∧
      ∀ problems, (c.step changes).withChanges changes' = .refused problems ↔
        c.withChanges changes' = .refused problems :=
  ⟨step_step_comm c h, fun _ => withChanges_eq_refused_iff _ _,
    fun _ => withChanges_eq_refused_iff _ _⟩

/-- Two abilities that are named in passing, and a level that is too high. -/
theorem step_comm_of_independent_saves :
    let armored : List (String × Value) :=
      [("target_ac", .int 18), ("target_saves", .object [("dex save", .int 5)])]
    let leveled : List (String × Value) :=
      [("caster_level", .int 21), ("target_saves", .object [("Wisdom", .int 4)])]
    Independent armored leveled ∧
      (step {} armored).step leveled = (step {} leveled).step armored ∧
        (∀ problems, (step {} leveled).withChanges armored = .refused problems ↔
          withChanges {} armored = .refused problems) ∧
        ∀ problems, (step {} armored).withChanges leveled = .refused problems ↔
          withChanges {} leveled = .refused problems := by
  intro armored leveled
  have hplain : ∀ name ∈ plainFields, given? armored name = none ∨ given? leveled name = none := by
    decide +kernel
  have hsaves : Saves.Independent (given? armored "target_saves")
      (given? leveled "target_saves") := by
    refine .inr (.inr ⟨_, _, rfl, rfl, fun a => ?_⟩)
    cases a <;> decide +kernel
  have h : Independent armored leveled := ⟨hplain, hsaves⟩
  exact ⟨h, step_comm_of_independent {} h⟩

end Context

end ExpectedDamage.Combat
