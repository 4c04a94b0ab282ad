import ExpectedDamage.Proofs.Spell.ExactFigures
import ExpectedDamage.Proofs.Spell.Ranking
/-!
# The best spells for a slot

A slot takes the spells of its level and below, but no cantrips, and of them those count
whose damage roll, cast with the slot, is read as dice (`EligibleFor`). The best ones are the
first in a stable ranking of their analyses by damage for each level of the slot. Each of them
has that figure, because an analysis finds damage exactly if the casting has dice
(`isSome_damage?_iff_hasDice`).
-/

namespace ExpectedDamage.Spell

open Combat (Context)
open Binary64

/-! Castings with dice. -/

/-- The spell names a damage roll, and the roll of the casting is read as dice. -/
def HasDice (s : Spell) (castLevel : Option Int) : Prop :=
  ∃ dice, s.castDice? castLevel = .ok (some dice)

instance (s : Spell) (castLevel : Option Int) : Decidable (s.HasDice castLevel) :=
  match h : s.castDice? castLevel with
  | .ok (some dice) => .isTrue ⟨dice, h⟩
  | .ok none => .isFalse fun ⟨_, hdice⟩ => nomatch h.symm.trans hdice
  | .error _ => .isFalse fun ⟨_, hdice⟩ => nomatch h.symm.trans hdice

theorem isDamaging_of_hasDice {s : Spell} {castLevel : Option Int} (h : s.HasDice castLevel) :
    s.isDamaging = true := by
  obtain ⟨dice, hdice⟩ := h
  rw [castDice?] at hdice
  rw [isDamaging]
  cases hrecorded : s.damageRoll with
  | none =>
      rw [hrecorded] at hdice
      exact absurd (Except.ok.inj hdice.symm) (Option.some_ne_none dice)
  | some recorded =>
      rw [hrecorded] at hdice
      by_cases hempty : recorded = ""
      · have hnone := hdice.symm.trans (if_pos hempty)
        exact absurd (Except.ok.inj hnone) (Option.some_ne_none dice)
      · exact decide_eq_true hempty

/-- The dice of a casting that is analysed can be read, and there is damage if there are any. -/
theorem castDice?_of_analyze? {s : Spell} {context : Context} {castLevel : Option Int}
    {a : Analysis} (h : s.analyze? context castLevel = .ok a) :
    ∃ parsed, s.castDice? castLevel = .ok parsed ∧ a.damage?.isSome = parsed.isSome := by
  rcases analyze?_cases h with
    ⟨hnone, hroll⟩ | ⟨recorded, roll, dice, d, hrecorded, hne, hroll, hparse, -, hd⟩
  · refine ⟨none, ?_, by rw [hnone]; rfl⟩
    cases hrecorded : s.damageRoll with
    | none =>
        rw [castDice?, hrecorded]
        rfl
    | some recorded =>
        by_cases hempty : recorded = ""
        · rw [castDice?, hrecorded]
          exact if_pos hempty
        · obtain ⟨roll, hroll, hparse⟩ := hroll recorded hrecorded hempty
          exact castDice?_eq_some hrecorded hempty hroll hparse
  · exact ⟨some dice, castDice?_eq_some hrecorded hne hroll hparse, by rw [hd]; rfl⟩

theorem isSome_damage?_iff_hasDice {s : Spell} {context : Context} {castLevel : Option Int}
    {a : Analysis} (h : s.analyze? context castLevel = .ok a) :
    a.damage?.isSome = true ↔ s.HasDice castLevel := by
  obtain ⟨parsed, hparsed, hsome⟩ := castDice?_of_analyze? h
  rw [hsome, HasDice, hparsed]
  cases parsed with
  | none => exact iff_of_false Bool.false_ne_true nofun
  | some dice => exact iff_of_true rfl ⟨dice, rfl⟩

/-! Spells for a slot. -/

/-- A spell that can be cast with a slot for damage: it is no cantrip and not above the slot,
and its casting has dice. -/
def EligibleFor (slot : Int) (s : Spell) : Prop :=
  0 < s.level.val ∧ s.level.val ≤ slot ∧ s.HasDice (some slot)

instance (slot : Int) (s : Spell) : Decidable (s.EligibleFor slot) :=
  inferInstanceAs (Decidable (_ ∧ _ ∧ _))

theorem eligibleFor_iff {slot : Int} {s : Spell} :
    s.EligibleFor slot ↔ fitsSlot slot s = true ∧ s.HasDice (some slot) := by
  rw [EligibleFor, fitsSlot, Bool.and_eq_true, Bool.and_eq_true, decide_eq_true_iff,
    decide_eq_true_iff, and_assoc, and_assoc]
  exact and_congr_right fun _ => and_congr_right fun _ =>
    ⟨fun h => ⟨isDamaging_of_hasDice h, h⟩, And.right⟩

/-- The damaging ones among the analyses of the spells that fit a slot are the analyses of the
eligible spells. -/
theorem forall₂_eligibleFor {spells : List Spell} {slot : Int} {context : Context}
    {analyses : List Analysis}
    (h : List.Forall₂ (fun s a => s.analyze? context (some slot) = .ok a)
      (spells.filter (fitsSlot slot)) analyses) :
    List.Forall₂ (fun s a => s.analyze? context (some slot) = .ok a)
      (spells.filter fun s => s.EligibleFor slot) (analyses.filter fun a => a.damage?.isSome) := by
  have heligible : (spells.filter fun s => s.EligibleFor slot) =
      (spells.filter (fitsSlot slot)).filter fun s => s.HasDice (some slot) := by
    rw [List.filter_filter]
    refine List.filter_congr fun s _ => ?_
    rw [Bool.eq_iff_iff, decide_eq_true_iff, Bool.and_eq_true, decide_eq_true_iff,
      eligibleFor_iff, and_comm]
  rw [heligible]
  refine List.rel_filter (fun {s a} hanalyze => ?_) h
  exact decide_eq_true_iff.trans (isSome_damage?_iff_hasDice hanalyze).symm

/-! The first ones of a ranking. -/

/-- A stable ranking: the items in falling order of a figure, and equal ones as they were. -/
structure IsRanking {α : Type} (figure : α → Binary64) (items ranked : List α) : Prop where
  perm : ranked.Perm items
  falling : ranked.Pairwise fun a b => figure b ≤ figure a
  stable : ∀ x : Binary64, (ranked.filter fun a => figure a ≤ x ∧ x ≤ figure a) =
    items.filter fun a => figure a ≤ x ∧ x ≤ figure a

theorem isRanking_rankedBy {α : Type} {figure : α → Binary64} {items : List α}
    (h : ∀ a ∈ items, (figure a).IsFinite) : IsRanking figure items (rankedBy figure items) :=
  ⟨rankedBy_perm figure items, pairwise_rankedBy h, filter_tied_rankedBy h⟩

/-- No item behind a place of a ranking has a greater figure than one in front of it. -/
theorem IsRanking.le_of_mem_drop {α : Type} {figure : α → Binary64} {items ranked : List α}
    (h : IsRanking figure items ranked) {k : Nat} {a b : α} (ha : a ∈ ranked.take k)
    (hb : b ∈ ranked.drop k) : figure b ≤ figure a := by
  have hfalling := h.falling
  rw [← List.take_append_drop k ranked, List.pairwise_append] at hfalling
  exact hfalling.2.2 a ha b hb

theorem perSlotLevel_eq {a : Analysis} {d : Damage} (h : a.damage? = some d) :
    a.perSlotLevel = d.perSlotLevel := by
  rw [Analysis.perSlotLevel, h]
  rfl

/-- The best spells for a slot are the first ones of the stable ranking of the eligible spells,
as many as the limit allows. All of these have a figure to be ranked by, and none that is left
out has a greater one than any that is not. -/
theorem exists_bestForSlot? {spells : List Spell} {slot : Int} {context : Context} {limit : Int}
    (hlimit : 0 ≤ limit)
    (h : ∀ s ∈ spells, fitsSlot slot s = true → ∃ a, s.analyze? context (some slot) = .ok a) :
    ∃ analyses ranked,
      List.Forall₂ (fun s a => s.analyze? context (some slot) = .ok a)
        (spells.filter fun s => s.EligibleFor slot) analyses ∧
      (∀ a ∈ analyses, ∃ d, a.damage? = some d ∧ a.perSlotLevel = d.perSlotLevel) ∧
      IsRanking Analysis.perSlotLevel analyses ranked ∧
      bestForSlot? spells slot context limit = .ok (ranked.take limit.toNat) ∧
      (ranked.take limit.toNat).length = min limit.toNat analyses.length ∧
      ∀ a ∈ ranked.take limit.toNat, ∀ b ∈ ranked.drop limit.toNat,
        b.perSlotLevel ≤ a.perSlotLevel := by
  have hall : ∀ s ∈ spells.filter (fitsSlot slot),
      ∃ a, s.analyze? context (some slot) = .ok a := fun s hs =>
    h s (List.mem_filter.1 hs).1 (List.mem_filter.1 hs).2
  obtain ⟨all, hanalyses⟩ := exists_mapM_eq_ok_iff.2 hall
  have hdamage : ∀ a ∈ all.filter fun a => a.damage?.isSome,
      ∃ d, a.damage? = some d ∧ a.perSlotLevel = d.perSlotLevel := by
    intro a ha
    obtain ⟨d, hd⟩ := Option.isSome_iff_exists.1 (List.mem_filter.1 ha).2
    exact ⟨d, hd, perSlotLevel_eq hd⟩
  have hfinite : ∀ a ∈ all.filter fun a => a.damage?.isSome, a.perSlotLevel.IsFinite := by
    intro a ha
    obtain ⟨d, hd, heq⟩ := hdamage a ha
    obtain ⟨s, -, hs⟩ := exists_of_mem_of_mapM_eq_ok hanalyses (List.mem_filter.1 ha).1
    rw [heq]
    exact (shown_of_analyze? hs d hd).perSlotLevel.isFinite
  have hranking := isRanking_rankedBy hfinite
  refine ⟨_, _, forall₂_eligibleFor (forall₂_of_mapM_eq_ok hanalyses), hdamage, hranking, ?_, ?_,
    fun a ha b hb => hranking.le_of_mem_drop ha hb⟩
  · exact bind_eq_ok_iff.2 ⟨all, hanalyses, congrArg Except.ok (if_pos hlimit)⟩
  · rw [List.length_take, hranking.perm.length_eq]

/-- Two eligible spells between ones that are not: a cantrip, one whose roll is not read as dice,
and one above the slot. -/
theorem exists_bestForSlot?_two_eligible :
    let spells : List Spell := [
      { name := "Fire Bolt", damageRoll := some "1d10", attackRoll := true },
      { name := "Ray", level := ⟨1, by decide⟩, damageRoll := some "2d6", attackRoll := true },
      { name := "Riddle", level := ⟨1, by decide⟩, damageRoll := some "special" },
      { name := "Shards", level := ⟨2, by decide⟩, damageRoll := some "3d8" },
      { name := "Storm", level := ⟨3, by decide⟩, damageRoll := some "8d6" }]
    (spells.filter fun s => s.EligibleFor 2).map (·.name) = ["Ray", "Shards"] ∧
    ∃ analyses ranked,
      List.Forall₂ (fun s a => s.analyze? {} (some 2) = .ok a)
        (spells.filter fun s => s.EligibleFor 2) analyses ∧
      (∀ a ∈ analyses, ∃ d, a.damage? = some d ∧ a.perSlotLevel = d.perSlotLevel) ∧
      IsRanking Analysis.perSlotLevel analyses ranked ∧
      bestForSlot? spells 2 {} 1 = .ok (ranked.take 1) ∧
      (ranked.take 1).length = min 1 analyses.length ∧
      ∀ a ∈ ranked.take 1, ∀ b ∈ ranked.drop 1, b.perSlotLevel ≤ a.perSlotLevel := by
  intro spells
  have hall : ∀ s ∈ spells, fitsSlot 2 s = true → ∃ a, s.analyze? {} (some 2) = .ok a := by
    decide +kernel
  have hnames : (spells.filter fun s => s.EligibleFor 2).map (·.name) = ["Ray", "Shards"] := by
    decide +kernel
  exact ⟨hnames, exists_bestForSlot? (show (0 : Int) ≤ 1 by decide) hall⟩

end ExpectedDamage.Spell
