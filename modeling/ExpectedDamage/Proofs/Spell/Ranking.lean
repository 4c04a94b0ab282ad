import ExpectedDamage.Proofs.Number.Order
import ExpectedDamage.Proofs.Spell.Analysis
import ExpectedDamage.Spell.Ranking
import Mathlib.Data.List.Sort
/-!
# Rankings

A ranking by finite figures is a stable sort: the items in falling order, and equal ones in
the order of the list (`pairwise_rankedBy`, `filter_rankedBy`). The first of the greatest
items stands after smaller ones and before ones that are not greater (`IsFirstGreatest`).
The figures of an analysis are `Plain`, so that a ranking of analyses shows the same totals
in whatever order the spells are given (`exists_compare?`).
-/

namespace ExpectedDamage.Spell

open Combat (Context)
open Binary64

/-! Rankings by a figure. -/

section RankedBy

variable {α : Type} {figure : α → Binary64} {items other : List α}

theorem rankedBy_perm (figure : α → Binary64) (items : List α) :
    (rankedBy figure items).Perm items :=
  List.mergeSort_perm ..

/-- Finite figures are ranked by their values, which are in a total order. -/
theorem rankedBy_eq (h : ∀ a ∈ items, (figure a).IsFinite) : rankedBy figure items =
    items.mergeSort fun a b => decide ((figure b).value ≤ (figure a).value) := by
  have hvalues : ∀ a ∈ items, ∀ b ∈ items,
      (figure b).atMost (figure a) = decide ((figure b).value ≤ (figure a).value) := by
    intro a ha b hb
    rw [Bool.eq_iff_iff, decide_eq_true_iff]
    exact atMost_iff (h b hb) (h a ha)
  have hmap := List.map_mergeSort (f := fun a => a) hvalues
  rwa [List.map_id', List.map_id'] at hmap

theorem values_trans (figure : α → Binary64) (a b c : α)
    (hab : decide ((figure b).value ≤ (figure a).value) = true)
    (hbc : decide ((figure c).value ≤ (figure b).value) = true) :
    decide ((figure c).value ≤ (figure a).value) = true :=
  decide_eq_true ((of_decide_eq_true hbc).trans (of_decide_eq_true hab))

theorem values_total (figure : α → Binary64) (a b : α) :
    (decide ((figure b).value ≤ (figure a).value) ||
      decide ((figure a).value ≤ (figure b).value)) = true := by
  simpa using le_total (figure b).value (figure a).value

theorem pairwise_rankedBy (h : ∀ a ∈ items, (figure a).IsFinite) :
    (rankedBy figure items).Pairwise fun a b => figure b ≤ figure a := by
  have hsorted := List.pairwise_mergeSort (values_trans figure) (values_total figure) items
  rw [← rankedBy_eq h] at hsorted
  refine hsorted.imp_of_mem fun ha hb hle => ?_
  have ha := (rankedBy_perm figure items).subset ha
  have hb := (rankedBy_perm figure items).subset hb
  exact (atMost_iff (h _ hb) (h _ ha)).2 (of_decide_eq_true hle)

/-- Items that are in falling order in the list keep their order in the ranking. -/
theorem filter_rankedBy (h : ∀ a ∈ items, (figure a).IsFinite) {p : α → Bool}
    (hfalling : (items.filter p).Pairwise fun a b => figure b ≤ figure a) :
    (rankedBy figure items).filter p = items.filter p := by
  have hmem : ∀ {a}, a ∈ items.filter p → a ∈ items := fun ha => (List.mem_filter.1 ha).1
  have hvalues : (items.filter p).Pairwise fun a b =>
      decide ((figure b).value ≤ (figure a).value) = true := by
    refine hfalling.imp_of_mem fun ha hb hle => ?_
    exact decide_eq_true ((atMost_iff (h _ (hmem hb)) (h _ (hmem ha))).1 hle)
  -- What is kept of the list is sorted, and a stable sort keeps the order of such a sublist.
  have hsublist := List.sublist_mergeSort (values_trans figure) (values_total figure) hvalues
    List.filter_sublist
  rw [← rankedBy_eq h] at hsublist
  have hkept := hsublist.filter p
  simp only [List.filter_filter, Bool.and_self] at hkept
  exact (hkept.eq_of_length ((rankedBy_perm figure items).filter p).length_eq.symm).symm

/-- Items of the same figure keep the order of the list. -/
theorem filter_tied_rankedBy (h : ∀ a ∈ items, (figure a).IsFinite) (x : Binary64) :
    (rankedBy figure items).filter (fun a => figure a ≤ x ∧ x ≤ figure a) =
      items.filter fun a => figure a ≤ x ∧ x ≤ figure a := by
  apply filter_rankedBy h
  apply List.pairwise_of_forall_mem_list
  intro a ha b hb
  have ha := of_decide_eq_true (List.mem_filter.1 ha).2
  have hb := of_decide_eq_true (List.mem_filter.1 hb).2
  exact atMost_trans hb.1 ha.2

/-- The ranked figures do not depend on the order of the list. -/
theorem map_rankedBy_perm (h : ∀ a ∈ items, (figure a).Plain) (hperm : other.Perm items) :
    (rankedBy figure other).map figure = (rankedBy figure items).map figure := by
  have hother : ∀ a ∈ other, (figure a).Plain := fun a ha => h a (hperm.subset ha)
  have hsame : ((rankedBy figure other).map figure).Perm ((rankedBy figure items).map figure) :=
    ((rankedBy_perm figure other).trans (hperm.trans (rankedBy_perm figure items).symm)).map figure
  have hfalling : ((rankedBy figure items).map figure).Pairwise fun x y => y ≤ x :=
    List.pairwise_map.2 (pairwise_rankedBy fun a ha => (h a ha).isFinite)
  have hfalling' : ((rankedBy figure other).map figure).Pairwise fun x y => y ≤ x :=
    List.pairwise_map.2 (pairwise_rankedBy fun a ha => (hother a ha).isFinite)
  -- Plain figures that are equal are the same, so that there is only one falling row of them.
  refine List.Perm.eq_of_pairwise ?_ hfalling' hfalling hsame
  intro x y hx hy hyx hxy
  obtain ⟨a, ha, rfl⟩ := List.mem_map.1 hx
  obtain ⟨b, hb, rfl⟩ := List.mem_map.1 hy
  have ha := (rankedBy_perm figure other).subset ha
  have hb := (rankedBy_perm figure items).subset hb
  exact (hother a ha).eq_of_le (h b hb) hxy hyx

end RankedBy

/-! The first of the greatest items. -/

section FirstGreatest

variable {α : Type} {figure : α → Binary64}

/-- Each item before this one is smaller, and none after it is greater. -/
def IsFirstGreatest (figure : α → Binary64) (items : List α) (a : α) : Prop :=
  ∃ before after, items = before ++ a :: after ∧ (∀ b ∈ before, figure b < figure a) ∧
    ∀ b ∈ after, figure b ≤ figure a

theorem IsFirstGreatest.mem {items : List α} {a : α} (h : IsFirstGreatest figure items a) :
    a ∈ items := by
  obtain ⟨before, after, rfl, -, -⟩ := h
  exact List.mem_append_right before List.mem_cons_self

theorem IsFirstGreatest.le {items : List α} {a b : α} (h : IsFirstGreatest figure items a)
    (ha : (figure a).IsFinite) (hb : b ∈ items) (hfinite : (figure b).IsFinite) :
    figure b ≤ figure a := by
  obtain ⟨before, after, rfl, hbefore, hafter⟩ := h
  rcases List.mem_append.1 hb with hb | hb
  · exact (atMost_iff hfinite ha).2 ((less_iff hfinite ha).1 (hbefore b hb)).le
  · rcases List.mem_cons.1 hb with rfl | hb
    · exact (atMost_iff ha ha).2 le_rfl
    · exact hafter b hb

/-- One more item takes the place only if it is greater. -/
theorem IsFirstGreatest.step {items : List α} {a b : α} (h : IsFirstGreatest figure items a)
    (hfinite : ∀ c ∈ items ++ [b], (figure c).IsFinite) :
    IsFirstGreatest figure (items ++ [b]) (if figure a < figure b then b else a) := by
  have ha := hfinite a (List.mem_append_left _ h.mem)
  have hb := hfinite b (List.mem_append_right _ List.mem_cons_self)
  split
  · next hless =>
      refine ⟨items, [], rfl, fun c hc => ?_, nofun⟩
      have hc' := hfinite c (List.mem_append_left _ hc)
      have hle := (atMost_iff hc' ha).1 (h.le ha hc hc')
      exact (less_iff hc' hb).2 (hle.trans_lt ((less_iff ha hb).1 hless))
  · next hless =>
      obtain ⟨before, after, rfl, hbefore, hafter⟩ := h
      have hle : figure b ≤ figure a := by
        rw [less_iff ha hb, not_lt] at hless
        exact (atMost_iff hb ha).2 hless
      refine ⟨before, after ++ [b], by simp, hbefore, fun c hc => ?_⟩
      rcases List.mem_append.1 hc with hc | hc
      · exact hafter c hc
      · exact List.mem_singleton.1 hc ▸ hle

theorem IsFirstGreatest.foldl {items rest : List α} {a : α} (h : IsFirstGreatest figure items a)
    (hfinite : ∀ c ∈ items ++ rest, (figure c).IsFinite) :
    IsFirstGreatest figure (items ++ rest)
      (rest.foldl (fun best b => if figure best < figure b then b else best) a) := by
  induction rest generalizing items a with
  | nil => rwa [List.append_nil]
  | cons b rest ih =>
      rw [List.append_cons] at hfinite ⊢
      exact ih (h.step fun c hc => hfinite c (List.mem_append_left _ hc)) hfinite

/-- There is a first greatest item unless there is none at all. -/
theorem firstGreatest?_cases {items : List α} (hfinite : ∀ c ∈ items, (figure c).IsFinite) :
    (firstGreatest? figure items = none ∧ items = []) ∨
      ∃ a, firstGreatest? figure items = some a ∧ IsFirstGreatest figure items a := by
  cases items with
  | nil => exact .inl ⟨rfl, rfl⟩
  | cons a rest =>
      have hhead : IsFirstGreatest figure [a] a := ⟨[], [], rfl, nofun, nofun⟩
      exact .inr ⟨_, rfl, hhead.foldl hfinite⟩

end FirstGreatest

/-! Figures of analyses. -/

/-- The figures that spells are ranked by have one spelling. -/
structure Damage.Shown (d : Damage) : Prop where
  total : d.total.Plain
  perSlotLevel : d.perSlotLevel.Plain

theorem shown_of_damage? {s : Spell} {context : Context} {slotLevel : Int}
    {recorded roll : String} {dice : Dice.Expression} {d : Damage}
    (h : s.damage? context slotLevel recorded roll dice = .ok d) : d.Shown := by
  obtain ⟨area, unrounded, hd⟩ := damage?_eq_ok_iff.1 h
  obtain ⟨slot, -, hperSlotLevel⟩ := hd.perSlotLevel
  exact ⟨plain_of_roundDamage? hd.total, plain_of_roundDamage? hperSlotLevel⟩

theorem shown_of_analyze? {s : Spell} {context : Context} {castLevel : Option Int} {a : Analysis}
    (h : s.analyze? context castLevel = .ok a) : ∀ d ∈ a.damage?, d.Shown := by
  intro d hd
  rcases analyze?_cases h with
    ⟨hnone, -⟩ | ⟨recorded, roll, dice, damage, -, -, -, -, hdamage, hsome⟩
  · exact absurd (hnone.symm.trans hd) (Option.some_ne_none d).symm
  · obtain rfl := Option.some.inj (hsome.symm.trans hd)
    exact shown_of_damage? hdamage

theorem plain_total {a : Analysis} (h : ∀ d ∈ a.damage?, d.Shown) : a.total.Plain := by
  rw [Analysis.total]
  cases hdamage : a.damage? with
  | none => exact nofun
  | some d => exact (h d hdamage).total

/-! Comparisons. -/

namespace Comparison

/-- Of the analyses with damage, the first one that has the most of it for each level of its
slot. -/
def IsMostEfficient (ranked : List Analysis) (a : Analysis) : Prop :=
  ∃ d before after, ranked = before ++ a :: after ∧ a.damage? = some d ∧
    (∀ b ∈ before, ∀ e ∈ b.damage?, e.perSlotLevel < d.perSlotLevel) ∧
    ∀ b ∈ after, ∀ e ∈ b.damage?, e.perSlotLevel ≤ d.perSlotLevel

/-- A comparison is the stable ranking of some analyses, in falling order of their totals. -/
structure Ranks (c : Comparison) (analyses : List Analysis) : Prop where
  perm : c.ranked.Perm analyses
  falling : c.ranked.Pairwise fun a b => b.total ≤ a.total
  /-- Analyses with the same total keep their order. -/
  stable : ∀ t : Binary64, (c.ranked.filter fun a => a.total ≤ t ∧ t ≤ a.total) =
    analyses.filter fun a => a.total ≤ t ∧ t ≤ a.total
  bestDamage : (c.ranked = [] ∧ c.bestDamage = none) ∨
    ∃ a rest, c.ranked = a :: rest ∧ c.bestDamage = some a.spell.name
  bestEfficiency : ((∀ a ∈ c.ranked, a.damage? = none) ∧ c.bestEfficiency = none) ∨
    ∃ a, IsMostEfficient c.ranked a ∧ c.bestEfficiency = some a.spell.name

theorem bestDamage_cases (c : Comparison) : (c.ranked = [] ∧ c.bestDamage = none) ∨
    ∃ a rest, c.ranked = a :: rest ∧ c.bestDamage = some a.spell.name := by
  rw [bestDamage]
  cases c.ranked with
  | nil => exact .inl ⟨rfl, rfl⟩
  | cons a rest => exact .inr ⟨a, rest, rfl, rfl⟩

theorem mem_damaging {ranked : List Analysis} {a : Analysis} {d : Damage} (ha : a ∈ ranked)
    (hd : d ∈ a.damage?) : (a, d) ∈ (Comparison.mk ranked).damaging :=
  List.mem_filterMap.2 ⟨a, ha, Option.map_eq_some_iff.2 ⟨d, hd, rfl⟩⟩

theorem isMostEfficient_of_isFirstGreatest {c : Comparison} {rated : Analysis × Damage}
    (h : IsFirstGreatest (fun rated : Analysis × Damage => rated.2.perSlotLevel) c.damaging rated) :
    IsMostEfficient c.ranked rated.1 := by
  obtain ⟨before, after, hsplit, hbefore, hafter⟩ := h
  obtain ⟨ranked, rest, hranked, rfl, hrest⟩ := List.filterMap_eq_append_iff.1 hsplit
  obtain ⟨harmless, a, more, rfl, hharmless, ha, rfl⟩ := List.filterMap_eq_cons_iff.1 hrest
  obtain ⟨d, hd, rfl⟩ := Option.map_eq_some_iff.1 ha
  refine ⟨d, ranked ++ harmless, more, by rw [hranked, List.append_assoc], hd, ?_, ?_⟩
  · intro b hb e he
    rcases List.mem_append.1 hb with hb | hb
    · exact hbefore (b, e) (mem_damaging hb he)
    · have hnone := Option.map_eq_none_iff.1 (hharmless b hb)
      rw [hnone] at he
      exact nomatch he
  · exact fun b hb e he => hafter (b, e) (mem_damaging hb he)

theorem bestEfficiency_cases {c : Comparison} (h : ∀ a ∈ c.ranked, ∀ d ∈ a.damage?, d.Shown) :
    ((∀ a ∈ c.ranked, a.damage? = none) ∧ c.bestEfficiency = none) ∨
      ∃ a, IsMostEfficient c.ranked a ∧ c.bestEfficiency = some a.spell.name := by
  have hfinite : ∀ rated ∈ c.damaging, rated.2.perSlotLevel.IsFinite := by
    intro rated hrated
    obtain ⟨a, ha, hrated⟩ := List.mem_filterMap.1 hrated
    obtain ⟨d, hd, rfl⟩ := Option.map_eq_some_iff.1 hrated
    exact (h a ha d hd).perSlotLevel.isFinite
  rcases firstGreatest?_cases hfinite with ⟨hnone, hempty⟩ | ⟨rated, hsome, hfirst⟩
  · have hbest : c.bestEfficiency = none := by
      rw [bestEfficiency, hnone]
      rfl
    refine .inl ⟨fun a ha => ?_, hbest⟩
    exact Option.map_eq_none_iff.1 (List.filterMap_eq_nil_iff.1 hempty a ha)
  · have hbest : c.bestEfficiency = some rated.1.spell.name := by
      rw [bestEfficiency, hsome]
      rfl
    exact .inr ⟨rated.1, isMostEfficient_of_isFirstGreatest hfirst, hbest⟩

theorem ranks_ofAnalyses {analyses : List Analysis}
    (h : ∀ a ∈ analyses, ∀ d ∈ a.damage?, d.Shown) : (ofAnalyses analyses).Ranks analyses := by
  have hfinite : ∀ a ∈ analyses, a.total.IsFinite := fun a ha => (plain_total (h a ha)).isFinite
  have hperm := rankedBy_perm Analysis.total analyses
  exact ⟨hperm, pairwise_rankedBy hfinite, filter_tied_rankedBy hfinite, bestDamage_cases _,
    bestEfficiency_cases fun a ha => h a (hperm.subset ha)⟩

end Comparison

/-- If each spell has an analysis, the comparison is their ranking, and the totals are the
same in whatever order the spells are given. -/
theorem exists_compare? {spells : List Spell} {context : Context} {analyses : List Analysis}
    (h : List.Forall₂ (fun s a => s.analyze? context none = .ok a) spells analyses) :
    ∃ c, compare? spells context = .ok c ∧ c.Ranks analyses ∧
      ∀ other, other.Perm spells → ∃ d, compare? other context = .ok d ∧
        d.ranked.map Analysis.total = c.ranked.map Analysis.total := by
  have hshown : ∀ a ∈ analyses, ∀ d ∈ a.damage?, d.Shown := by
    intro a ha
    obtain ⟨s, -, hs⟩ := exists_of_mem_of_mapM_eq_ok (mapM_eq_ok_of_forall₂ h) ha
    exact shown_of_analyze? hs
  refine ⟨_, map_eq_ok_iff.2 ⟨analyses, mapM_eq_ok_of_forall₂ h, rfl⟩,
    Comparison.ranks_ofAnalyses hshown, fun other hother => ?_⟩
  obtain ⟨others, hothers, hperm⟩ := List.perm_comp_forall₂ hother h
  refine ⟨_, map_eq_ok_iff.2 ⟨others, mapM_eq_ok_of_forall₂ hothers, rfl⟩, ?_⟩
  exact map_rankedBy_perm (fun a ha => plain_total (hshown a ha)) hperm

/-- Two spells with the same total, behind one without damage. -/
theorem exists_compare?_tied :
    let spells : List Spell := [{ name := "Alarm" },
      { name := "Fire Bolt", damageRoll := some "1d10", attackRoll := true },
      { name := "Sure Bolt", damageRoll := some "1d10", attackRoll := true }]
    ∃ analyses, List.Forall₂ (fun s a => s.analyze? {} none = .ok a) spells analyses ∧
      ∃ c, compare? spells {} = .ok c ∧ c.Ranks analyses ∧
        ∀ other, other.Perm spells → ∃ d, compare? other {} = .ok d ∧
          d.ranked.map Analysis.total = c.ranked.map Analysis.total := by
  intro spells
  have hall : ∀ s ∈ spells, ∃ a, s.analyze? {} none = .ok a := by
    decide +kernel
  obtain ⟨analyses, hanalyses⟩ := exists_mapM_eq_ok_iff.2 hall
  have hanalyses := forall₂_of_mapM_eq_ok hanalyses
  exact ⟨analyses, hanalyses, exists_compare? hanalyses⟩

end ExpectedDamage.Spell
