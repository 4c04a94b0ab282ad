import ExpectedDamage.Proofs.Text.FirstPlace
import ExpectedDamage.Proofs.Text.SmallLetters
import ExpectedDamage.Spell.Selection
/-!
# Selecting a spell by its own name or key

A wanted text is compared with names in lower case on both sides, so that its own name selects
each spell. A wanted key is put in lower case and gets hyphens for spaces, but the keys that it is
compared with do not. So its own key selects a spell only if the key is written like that already,
or if it is read as the name (`mem_selectWanted_own_iff`).
-/

namespace ExpectedDamage.Spell

open Text

/-- A text in lower case, with hyphens for spaces. -/
def keyLetters (text : List Char) : List Char :=
  (lower text).map fun c => if c = ' ' then '-' else c

theorem wantedKey_eq (wanted : String) :
    wantedKey wanted = normalizeKey (String.ofList (keyLetters wanted.toList)) :=
  rfl

theorem isSmall_of_mem_keyLetters {text : List Char} {c : Char} (h : c ∈ keyLetters text) :
    IsSmall c ∧ c ≠ ' ' := by
  obtain ⟨d, hd, rfl⟩ := List.mem_map.1 h
  split
  · decide
  · next hne => exact ⟨isSmall_of_mem_lower hd, hne⟩

theorem keyLetters_of_isSmall {text : List Char} (h : ∀ c ∈ text, IsSmall c ∧ c ≠ ' ') :
    keyLetters text = text := by
  rw [keyLetters, lower_eq_self_iff.2 fun c hc => (h c hc).1]
  exact (List.map_congr_left fun c hc => if_neg (h c hc).2).trans (List.map_id' text)

/-- A key is the mark of its source, or none, and what is left without it. -/
theorem exists_mark (key : String) :
    ∃ mark ∈ "" :: sourceMarks, key.toList = mark.toList ++ (normalizeKey key).toList := by
  rw [normalizeKey]
  split
  · next rest hrest =>
      obtain ⟨mark, hmark, hafter⟩ := List.exists_of_findSome?_eq_some hrest
      refine ⟨mark, List.mem_cons_of_mem "" hmark, ?_⟩
      rw [after?_eq_some_iff.1 hafter, String.toList_ofList]
  · exact ⟨"", List.mem_cons_self, rfl⟩

theorem isSmall_of_mem_mark {mark : String} (h : mark ∈ "" :: sourceMarks) :
    ∀ c ∈ mark.toList, IsSmall c ∧ c ≠ ' ' := by
  have hall : ∀ mark ∈ "" :: sourceMarks,
      (mark.toList.all fun c => IsSmall c ∧ c ≠ ' ') = true := by
    decide +kernel
  exact fun c hc => of_decide_eq_true (List.all_eq_true.1 (hall mark h) c hc)

/-- Wanted by itself, a key is found exactly if it is in lower case and has no spaces. -/
theorem normalizeKey_eq_wantedKey_iff {key : String} :
    normalizeKey key = wantedKey key ↔ lowercase key = key ∧ ' ' ∉ key.toList := by
  have hlowercase : lowercase key = key ↔ ∀ c ∈ key.toList, IsSmall c := by
    rw [lowercase, ← lower_eq_self_iff, ← String.toList_inj, String.toList_ofList]
  rw [hlowercase]
  constructor
  · intro h
    -- Without its mark, the key has no characters but those of the wanted one.
    have hrest : ∀ c ∈ (normalizeKey key).toList, IsSmall c ∧ c ≠ ' ' := by
      intro c hc
      obtain ⟨mark, -, hwanted⟩ := exists_mark (String.ofList (keyLetters key.toList))
      rw [String.toList_ofList, ← wantedKey_eq, ← h] at hwanted
      exact isSmall_of_mem_keyLetters (hwanted ▸ List.mem_append_right mark.toList hc)
    have hall : ∀ c ∈ key.toList, IsSmall c ∧ c ≠ ' ' := by
      obtain ⟨mark, hmark, hkey⟩ := exists_mark key
      rw [hkey]
      exact List.forall_mem_append.2 ⟨isSmall_of_mem_mark hmark, hrest⟩
    exact ⟨fun c hc => (hall c hc).1, fun hspace => (hall ' ' hspace).2 rfl⟩
  · rintro ⟨hsmall, hspace⟩
    rw [wantedKey_eq, keyLetters_of_isSmall fun c hc =>
      ⟨hsmall c hc, fun heq => hspace (heq ▸ hc)⟩, String.ofList_toList]

theorem mem_selectWanted_iff {spells : List Spell} {s : Spell} {wanted : String} :
    s ∈ selectWanted (some wanted) spells ↔
      s ∈ spells ∧ (wanted = "" ∨ isWanted wanted s = true) := by
  rw [selectWanted]
  split
  · next hempty => exact ⟨fun h => ⟨h, .inl hempty⟩, And.left⟩
  · next hne =>
      rw [List.mem_filter]
      exact and_congr_right fun _ => ⟨.inr, fun h => h.resolve_left hne⟩

/-- Of some spells, after they are filtered, each that has passed is selected by its own name. By
its own key it is selected exactly if the key is in lower case and has no spaces, or has the same
lower case as the name. -/
theorem mem_selectWanted_own_iff {spells : List Spell} {s : Spell} (h : s ∈ spells)
    (filter : Filter) :
    (s ∈ selectWanted (some s.name) (filter.select spells) ↔ filter.passes s = true) ∧
    (s ∈ selectWanted (some s.key) (filter.select spells) ↔ filter.passes s = true ∧
      (lowercase s.name = lowercase s.key ∨ lowercase s.key = s.key ∧ ' ' ∉ s.key.toList)) := by
  have hselect : s ∈ filter.select spells ↔ filter.passes s = true :=
    List.mem_filter.trans (and_iff_right h)
  constructor
  · have hown : isWanted s.name s = true := by rw [isWanted, beq_self_eq_true, Bool.true_or]
    rw [mem_selectWanted_iff, hselect]
    exact and_iff_left (.inr hown)
  · have hown : isWanted s.key s = true ↔
        lowercase s.name = lowercase s.key ∨ lowercase s.key = s.key ∧ ' ' ∉ s.key.toList := by
      rw [isWanted, Bool.or_eq_true, beq_iff_eq, beq_iff_eq, normalizedKey,
        normalizeKey_eq_wantedKey_iff]
    rw [mem_selectWanted_iff, hselect, hown]
    refine and_congr_right fun _ => or_iff_right_of_imp fun hempty => .inr ?_
    rw [hempty]
    decide

/-- A key in capitals that is not the name does not select its spell. -/
theorem mem_selectWanted_own_iff_capitals :
    let bolt : Spell := { key := "Fire-Bolt", name := "Firebolt" }
    bolt ∈ [bolt] ∧ bolt ∈ selectWanted (some bolt.name) [bolt] ∧
      bolt ∉ selectWanted (some bolt.key) [bolt] := by
  intro bolt
  have hmem : bolt ∈ [bolt] := List.mem_singleton_self bolt
  have hpasses : Filter.passes {} bolt = true := by decide +kernel
  have hother : ¬ (Filter.passes {} bolt = true ∧ (lowercase bolt.name = lowercase bolt.key ∨
      lowercase bolt.key = bolt.key ∧ ' ' ∉ bolt.key.toList)) := by
    decide +kernel
  obtain ⟨hname, hkey⟩ := mem_selectWanted_own_iff hmem {}
  exact ⟨hmem, hname.2 hpasses, fun hselected => hother (hkey.1 hselected)⟩

end ExpectedDamage.Spell
