import ExpectedDamage.Proofs.Spell.Ranking
/-!
# The spell named for its damage

A comparison names the spell at the head of its ranking, which is the first one with the greatest
total (`isFirstGreatest_of_rankedBy_eq_cons`). A harmless spell has the total zero there, so that
it can be named where no spell does more. The name is right as soon as a spell does more than zero
damage; where all names are different, it is right exactly if the head of the ranking does damage
at all (`exists_compare?_namesStrongest_iff`).
-/

namespace ExpectedDamage.Spell

open Combat (Context)
open Binary64

/-- At the head of a ranking stands the first one of the greatest items. -/
theorem isFirstGreatest_of_rankedBy_eq_cons {α : Type} {figure : α → Binary64} {items rest : List α}
    {a : α} (h : ∀ b ∈ items, (figure b).IsFinite) (hcons : rankedBy figure items = a :: rest) :
    IsFirstGreatest figure items a := by
  have hmem : ∀ {b}, b ∈ items ↔ b ∈ a :: rest := fun {b} =>
    hcons ▸ (rankedBy_perm figure items).mem_iff.symm
  have ha : (figure a).IsFinite := h a (hmem.2 List.mem_cons_self)
  have hrefl : figure a ≤ figure a := (atMost_iff ha ha).2 le_rfl
  have hle : ∀ b ∈ items, figure b ≤ figure a := by
    have hfalling := pairwise_rankedBy h
    rw [hcons, List.pairwise_cons] at hfalling
    intro b hb
    rcases List.mem_cons.1 (hmem.1 hb) with rfl | hb
    · exact hrefl
    · exact hfalling.1 b hb
  -- Of the items that are as great as the head, none stands before it in the list.
  have htied := filter_tied_rankedBy h (figure a)
  rw [hcons, List.filter_cons, if_pos (decide_eq_true ⟨hrefl, hrefl⟩)] at htied
  obtain ⟨before, after, rfl, hbefore, -, -⟩ := List.filter_eq_cons_iff.1 htied.symm
  refine ⟨before, after, rfl, fun b hb => ?_, fun b hb =>
    hle b (List.mem_append_right before (List.mem_cons_of_mem a hb))⟩
  have hb' : b ∈ before ++ a :: after := List.mem_append_left _ hb
  have hnot : ¬ figure a ≤ figure b := fun hge =>
    hbefore b hb (decide_eq_true ⟨hle b hb', hge⟩)
  rw [atMost_iff ha (h b hb'), not_le] at hnot
  exact (less_iff (h b hb') ha).2 hnot

theorem total_eq {a : Analysis} {d : Damage} (h : a.damage? = some d) : a.total = d.total := by
  rw [Analysis.total, h]
  rfl

/-- A spell that does damage, and none of the spells does more. -/
def IsStrongest (analyses : List Analysis) (a : Analysis) : Prop :=
  a ∈ analyses ∧ ∃ d, a.damage? = some d ∧ ∀ b ∈ analyses, ∀ e ∈ b.damage?, e.total ≤ d.total

/-- The name of a spell that does the most damage, or no name if no spell does any. -/
def NamesStrongest (analyses : List Analysis) : Option String → Prop
  | none => ∀ a ∈ analyses, a.damage? = none
  | some name => ∃ a, IsStrongest analyses a ∧ a.spell.name = name

namespace IsFirstGreatest

variable {analyses : List Analysis} {leader : Analysis}

theorem isStrongest (h : IsFirstGreatest Analysis.total analyses leader)
    (hshown : ∀ a ∈ analyses, ∀ d ∈ a.damage?, d.Shown) (hdamage : leader.damage?.isSome = true) :
    IsStrongest analyses leader := by
  obtain ⟨d, hd⟩ := Option.isSome_iff_exists.1 hdamage
  refine ⟨h.mem, d, hd, fun b hb e he => ?_⟩
  have hle := h.le (plain_total (hshown leader h.mem)).isFinite hb
    (plain_total (hshown b hb)).isFinite
  rwa [total_eq he, total_eq hd] at hle

/-- If a harmless spell has the greatest total, then no spell does more than zero damage. -/
theorem total_le_zero (h : IsFirstGreatest Analysis.total analyses leader)
    (hshown : ∀ a ∈ analyses, ∀ d ∈ a.damage?, d.Shown) (hharmless : leader.damage? = none) :
    ∀ b ∈ analyses, ∀ e ∈ b.damage?, e.total ≤ 0.0 := by
  intro b hb e he
  have hle := h.le (plain_total (hshown leader h.mem)).isFinite hb
    (plain_total (hshown b hb)).isFinite
  rwa [total_eq he, Analysis.total, hharmless] at hle

theorem namesStrongest_iff (h : IsFirstGreatest Analysis.total analyses leader)
    (hshown : ∀ a ∈ analyses, ∀ d ∈ a.damage?, d.Shown)
    (hnames : (analyses.map fun a => a.spell.name).Nodup) :
    NamesStrongest analyses (some leader.spell.name) ↔ leader.damage?.isSome = true := by
  constructor
  · rintro ⟨a, ⟨ha, d, hd, -⟩, hname⟩
    obtain rfl := List.inj_on_of_nodup_map hnames ha h.mem hname
    exact Option.isSome_iff_exists.2 ⟨d, hd⟩
  · exact fun hdamage => ⟨leader, h.isStrongest hshown hdamage, rfl⟩

end IsFirstGreatest

/-- If each spell has an analysis, a comparison of no spells gives no name, and any other gives the
name of the first one with the greatest total. This one does the most damage if it does any, and
otherwise no spell does more than zero. Where all names are different, the name is that of a spell
with the most damage exactly if the spell that bears it does damage. -/
theorem exists_compare?_namesStrongest_iff {spells : List Spell} {context : Context}
    {analyses : List Analysis}
    (h : List.Forall₂ (fun s a => s.analyze? context none = .ok a) spells analyses) :
    ∃ c, compare? spells context = .ok c ∧
      ((analyses = [] ∧ c.bestDamage = none) ∨
        ∃ leader, IsFirstGreatest Analysis.total analyses leader ∧
          c.bestDamage = some leader.spell.name ∧
          (leader.damage?.isSome = true → IsStrongest analyses leader) ∧
          (leader.damage? = none → ∀ b ∈ analyses, ∀ e ∈ b.damage?, e.total ≤ 0.0) ∧
          ((analyses.map fun a => a.spell.name).Nodup →
            (NamesStrongest analyses c.bestDamage ↔ leader.damage?.isSome = true))) := by
  have hshown : ∀ a ∈ analyses, ∀ d ∈ a.damage?, d.Shown := by
    intro a ha
    obtain ⟨s, -, hs⟩ := exists_of_mem_of_mapM_eq_ok (mapM_eq_ok_of_forall₂ h) ha
    exact shown_of_analyze? hs
  have hfinite : ∀ a ∈ analyses, a.total.IsFinite := fun a ha =>
    (plain_total (hshown a ha)).isFinite
  refine ⟨.ofAnalyses analyses, map_eq_ok_iff.2 ⟨analyses, mapM_eq_ok_of_forall₂ h, rfl⟩, ?_⟩
  rcases Comparison.bestDamage_cases (.ofAnalyses analyses) with
    ⟨hnil, hnone⟩ | ⟨leader, rest, hcons, hsome⟩
  · have hempty : analyses.length = 0 := by
      rw [← (rankedBy_perm Analysis.total analyses).length_eq]
      exact congrArg List.length hnil
    exact .inl ⟨List.length_eq_zero_iff.1 hempty, hnone⟩
  · have hfirst := isFirstGreatest_of_rankedBy_eq_cons hfinite hcons
    rw [hsome]
    exact .inr ⟨leader, hfirst, rfl, hfirst.isStrongest hshown, hfirst.total_le_zero hshown,
      hfirst.namesStrongest_iff hshown⟩

/-- A harmless spell alone. -/
theorem exists_compare?_namesStrongest_iff_harmless :
    let spells : List Spell := [{ name := "Alarm" }]
    ∃ analyses, List.Forall₂ (fun s a => s.analyze? {} none = .ok a) spells analyses ∧
      ∃ c, compare? spells {} = .ok c ∧ c.bestDamage = some "Alarm" ∧
        ¬ NamesStrongest analyses c.bestDamage := by
  intro spells
  have hall : ∀ s ∈ spells, ∃ a, s.analyze? {} none = .ok a := by decide +kernel
  obtain ⟨analyses, hanalyses⟩ := exists_mapM_eq_ok_iff.2 hall
  have hshown : analyses.map (fun a => (a.spell.name, a.damage?.isSome)) = [("Alarm", false)] := by
    have heval : (spells.mapM fun s : Spell => s.analyze? {} none).toOption.map
        (List.map fun a => (a.spell.name, a.damage?.isSome)) = some [("Alarm", false)] := by
      decide +kernel
    rw [hanalyses] at heval
    exact Option.some.inj heval
  have hnames : (analyses.map fun a => a.spell.name).Nodup := by
    have hlength : analyses.length = 1 := by
      simpa using congrArg List.length hshown
    obtain ⟨a, rfl⟩ := List.length_eq_one_iff.1 hlength
    exact List.nodup_singleton a.spell.name
  have hforall := forall₂_of_mapM_eq_ok hanalyses
  refine ⟨analyses, hforall, ?_⟩
  obtain ⟨c, hc, hcases⟩ := exists_compare?_namesStrongest_iff hforall
  rcases hcases with ⟨rfl, -⟩ | ⟨leader, hleader, hname, -, -, hiff⟩
  · exact nomatch hshown
  · have hmem := List.mem_map_of_mem (f := fun a : Analysis => (a.spell.name, a.damage?.isSome))
      hleader.mem
    rw [hshown, List.mem_singleton, Prod.mk.injEq] at hmem
    refine ⟨c, hc, hmem.1 ▸ hname, fun hnamed => ?_⟩
    exact absurd ((hiff hnames).1 hnamed) (by rw [hmem.2]; exact Bool.false_ne_true)

end ExpectedDamage.Spell
