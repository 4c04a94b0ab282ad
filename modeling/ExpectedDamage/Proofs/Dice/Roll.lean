import ExpectedDamage.Dice.Roll
import ExpectedDamage.Dice.Statistics
import Mathlib.Algebra.BigOperators.Group.List.Lemmas
import Mathlib.Algebra.Order.BigOperators.GroupWithZero.List
import Mathlib.Algebra.Order.Ring.Int
import Mathlib.Tactic.Ring
/-!
# What a roll holds

A roll draws the dice of its terms one after another and divides those of each term on
their own. `Rolled` is that course of a roll: for each term, the part of its dice that is
kept and the part that is not, where the dice of a term begin at the place behind those of
the term before it. `Term.Divides` says what a division has to respect.

Bounds of the single dice are bounds of the total (`Rolled.wholeSum_kept`), and streams
on which every die shows its lowest or its highest face attain them
(`Expression.rolled_and_attains_bounds`).
-/

namespace ExpectedDamage.Dice

theorem wholeSum_bounds {numbers : List Int} {low high : Int}
    (h : ∀ n ∈ numbers, low ≤ n ∧ n ≤ high) :
    numbers.length * low ≤ wholeSum numbers ∧ wholeSum numbers ≤ numbers.length * high := by
  induction numbers with
  | nil => simp
  | cons n numbers ih =>
      obtain ⟨hn, hnumbers⟩ := List.forall_mem_cons.1 h
      obtain ⟨hlow, hhigh⟩ := ih hnumbers
      rw [wholeSum_cons, List.length_cons, Nat.cast_succ, add_mul, add_mul, one_mul, one_mul]
      omega

/-! The dice of one term. -/

/-- Dice of a term that are divided into kept and discarded ones, as its keep rule has it. -/
structure Term.Divides (t : Term) (dice : List Int) (part : List Int × List Int) : Prop where
  perm : (part.1 ++ part.2).Perm dice
  length_kept : (part.1.length : Int) = t.keptCount
  highest : ∀ rule ∈ t.keep, rule.mode = .highest → ∀ a ∈ part.1, ∀ b ∈ part.2, b ≤ a
  lowest : ∀ rule ∈ t.keep, rule.mode = .lowest → ∀ a ∈ part.1, ∀ b ∈ part.2, a ≤ b

theorem length_drawn (faces : Faces) (start : Nat) (sides : Int) (count : Nat) :
    (drawn faces start sides count).length = count := by
  rw [drawn, List.length_map, List.length_range]

theorem Term.keptCount_some (count sides : Int) (mode : KeepMode) (kept : Int) :
    Term.keptCount ⟨count, sides, some ⟨mode, kept⟩⟩ = kept := rfl

/-- Dice from high to low. -/
def ordered (dice : List Int) : List Int := dice.mergeSort fun a b => b ≤ a

theorem divide_none (dice : List Int) : divide none dice = (dice, []) := rfl

theorem divide_highest (kept : Int) (dice : List Int) :
    divide (some ⟨.highest, kept⟩) dice =
      ((ordered dice).take kept.toNat, (ordered dice).drop kept.toNat) := by
  rw [ordered, ← List.splitAt_eq]
  rfl

theorem divide_lowest (kept : Int) (dice : List Int) :
    divide (some ⟨.lowest, kept⟩) dice =
      ((ordered dice).drop ((ordered dice).length - kept.toNat),
        (ordered dice).take ((ordered dice).length - kept.toNat)) := by
  rw [ordered, ← Prod.swap_prod_mk, ← List.splitAt_eq]
  rfl

theorem ordered_perm (dice : List Int) : (ordered dice).Perm dice := List.mergeSort_perm dice _

theorem pairwise_ordered (dice : List Int) : (ordered dice).Pairwise fun a b => b ≤ a := by
  have hsorted : (ordered dice).Pairwise fun a b => decide (b ≤ a) = true :=
    List.pairwise_mergeSort
      (fun a b c hab hbc => by simp only [decide_eq_true_eq] at *; omega)
      (fun a b => by simp only [Bool.or_eq_true, decide_eq_true_eq]; omega) dice
  exact hsorted.imp of_decide_eq_true

/-- Of ordered dice, those in front of a place are the highest. -/
theorem le_of_mem_take_ordered {dice : List Int} {k : Nat} {a b : Int}
    (ha : a ∈ (ordered dice).take k) (hb : b ∈ (ordered dice).drop k) : b ≤ a := by
  have hordered := pairwise_ordered dice
  rw [← List.take_append_drop k (ordered dice), List.pairwise_append] at hordered
  exact hordered.2.2 a ha b hb

theorem divides_divide {t : Term} (h : t.Valid) {dice : List Int}
    (hlength : (dice.length : Int) = t.count) : t.Divides dice (divide t.keep dice) := by
  obtain ⟨count, sides, keep⟩ := t
  have hlength : (dice.length : Int) = count := hlength
  have hordered := (ordered_perm dice).length_eq
  match keep with
  | none =>
      rw [divide_none]
      exact ⟨by rw [List.append_nil], hlength, nofun, nofun⟩
  | some ⟨.highest, kept⟩ =>
      obtain ⟨hlow, hhigh⟩ : 1 ≤ kept ∧ kept ≤ count := h.2.2 _ rfl
      rw [divide_highest]
      refine ⟨?_, ?_, ?_, ?_⟩
      · rw [List.take_append_drop]
        exact ordered_perm dice
      · rw [List.length_take, Term.keptCount_some]
        omega
      · exact fun _ _ _ a ha b hb => le_of_mem_take_ordered ha hb
      · rintro _ ⟨⟩ ⟨⟩
  | some ⟨.lowest, kept⟩ =>
      obtain ⟨hlow, hhigh⟩ : 1 ≤ kept ∧ kept ≤ count := h.2.2 _ rfl
      rw [divide_lowest]
      refine ⟨?_, ?_, ?_, ?_⟩
      · refine List.perm_append_comm.trans ?_
        rw [List.take_append_drop]
        exact ordered_perm dice
      · rw [List.length_drop, Term.keptCount_some]
        omega
      · rintro _ ⟨⟩ ⟨⟩
      · exact fun _ _ _ a ha b hb => le_of_mem_take_ordered hb ha

/-! The dice of all terms. -/

/-- The course of a roll from a place of the stream on: the kept and the discarded dice of
each term. -/
inductive Rolled (faces : Faces) : Nat → List Term → List (List Int × List Int) → Prop where
  | nil (start : Nat) : Rolled faces start [] []
  | cons {start : Nat} {t : Term} {ts : List Term} {part : List Int × List Int}
      {parts : List (List Int × List Int)}
      (first : t.Divides (drawn faces start t.sides t.count.toNat) part)
      (rest : Rolled faces (start + t.count.toNat) ts parts) :
      Rolled faces start (t :: ts) (part :: parts)

theorem rollTerms_cons (faces : Faces) (start : Nat) (t : Term) (ts : List Term) :
    rollTerms faces start (t :: ts) =
      let part := divide t.keep (drawn faces start t.sides t.count.toNat)
      let rest := rollTerms faces (start + t.count.toNat) ts
      ((part.1 ++ rest.1.1, part.2 ++ rest.1.2), rest.2) := rfl

/-- Terms that can be rolled are rolled one after another, and each die is drawn once. -/
theorem exists_rolled {ts : List Term} (h : ∀ t ∈ ts, t.Valid) (faces : Faces) (start : Nat) :
    ∃ parts, Rolled faces start ts parts ∧
      (rollTerms faces start ts).1 = (parts.flatMap Prod.fst, parts.flatMap Prod.snd) ∧
      ((rollTerms faces start ts).2 : Int) = start + wholeSum (ts.map Term.count) := by
  induction ts generalizing start with
  | nil => exact ⟨[], .nil start, rfl, by simp [rollTerms]⟩
  | cons t ts ih =>
      obtain ⟨ht, hts⟩ := List.forall_mem_cons.1 h
      have hcount : 1 ≤ t.count := ht.1
      obtain ⟨parts, hrolled, hdice, hnext⟩ := ih hts (start + t.count.toNat)
      have hlength : ((drawn faces start t.sides t.count.toNat).length : Int) = t.count := by
        rw [length_drawn]
        omega
      refine ⟨_ :: parts, .cons (divides_divide ht hlength) hrolled, ?_, ?_⟩
      · rw [rollTerms_cons]
        simp only [hdice, List.flatMap_cons]
      · rw [rollTerms_cons, List.map_cons, wholeSum_cons]
        simp only [hnext]
        omega

/-- If all dice of a term lie between two bounds, its kept dice add up to a sum between
these bounds for each of them. -/
theorem Rolled.wholeSum_kept {faces : Faces} {start : Nat} {ts : List Term}
    {parts : List (List Int × List Int)} (h : Rolled faces start ts parts)
    {low high : Term → Int}
    (hdie : ∀ t ∈ ts, ∀ i, low t ≤ 1 + (faces i : Int) % t.sides ∧
      1 + (faces i : Int) % t.sides ≤ high t) :
    wholeSum (ts.map fun t => t.keptCount * low t) ≤ wholeSum (parts.flatMap Prod.fst) ∧
      wholeSum (parts.flatMap Prod.fst) ≤ wholeSum (ts.map fun t => t.keptCount * high t) := by
  induction h with
  | nil start => exact ⟨le_rfl, le_rfl⟩
  | @cons start t ts part parts hfirst _ ih =>
      obtain ⟨ht, hts⟩ := List.forall_mem_cons.1 hdie
      obtain ⟨hlow, hhigh⟩ := ih hts
      have hkept : ∀ n ∈ part.1, low t ≤ n ∧ n ≤ high t := by
        intro n hn
        have hn := hfirst.perm.subset (List.mem_append_left _ hn)
        obtain ⟨i, -, rfl⟩ := List.mem_map.1 hn
        exact ht (start + i)
      obtain ⟨hbelow, habove⟩ := wholeSum_bounds hkept
      rw [hfirst.length_kept] at hbelow habove
      rw [List.flatMap_cons, wholeSum_append, List.map_cons, List.map_cons, wholeSum_cons,
        wholeSum_cons]
      omega

namespace Expression

theorem minimum_eq (e : Expression) :
    e.minimum = e.modifier + wholeSum (e.terms.map fun t => t.keptCount * 1) := by
  simp only [minimum, mul_one]

/-- The total of a roll whose dice lie between bounds. -/
theorem total_bounds {e : Expression} (h : e.Valid) {faces : Faces} {low high : Term → Int}
    (hdie : ∀ t ∈ e.terms, ∀ i, low t ≤ 1 + (faces i : Int) % t.sides ∧
      1 + (faces i : Int) % t.sides ≤ high t) (start : Nat) :
    e.modifier + wholeSum (e.terms.map fun t => t.keptCount * low t) ≤
        (e.roll faces start).1.total ∧
      (e.roll faces start).1.total ≤
        e.modifier + wholeSum (e.terms.map fun t => t.keptCount * high t) := by
  obtain ⟨parts, hrolled, hdice, -⟩ := exists_rolled h.1 faces start
  have htotal : (e.roll faces start).1.total =
      wholeSum (rollTerms faces start e.terms).1.1 + e.modifier := rfl
  have hkept : (rollTerms faces start e.terms).1.1 = parts.flatMap Prod.fst :=
    congrArg Prod.fst hdice
  obtain ⟨hlow, hhigh⟩ := hrolled.wholeSum_kept hdie
  rw [htotal, hkept]
  constructor
  · omega
  · omega

theorem die_bounds {e : Expression} (h : e.Valid) (faces : Faces) :
    ∀ t ∈ e.terms, ∀ i, 1 ≤ 1 + (faces i : Int) % t.sides ∧
      1 + (faces i : Int) % t.sides ≤ t.sides := by
  intro t ht i
  have hsides : 1 ≤ t.sides := (h.1 t ht).2.1
  have hnonneg := Int.emod_nonneg (faces i : Int) (show t.sides ≠ 0 by omega)
  have hlt := Int.emod_lt_of_pos (faces i : Int) (show 0 < t.sides by omega)
  omega

/-- A face that is one below a common multiple of all sides. -/
def lastFace (e : Expression) : Nat := ((e.terms.map Term.sides).prod - 1).toNat

/-- With it, every die shows its highest number. -/
theorem lastFace_emod {e : Expression} (h : e.Valid) :
    ∀ t ∈ e.terms, 1 + (e.lastFace : Int) % t.sides = t.sides := by
  intro t ht
  have hsides : 1 ≤ t.sides := (h.1 t ht).2.1
  have hpos : 0 < (e.terms.map Term.sides).prod := by
    refine List.prod_pos fun n hn => ?_
    obtain ⟨x, hx, rfl⟩ := List.mem_map.1 hn
    exact (h.1 x hx).2.1
  obtain ⟨k, hk⟩ : t.sides ∣ (e.terms.map Term.sides).prod :=
    List.dvd_prod (List.mem_map_of_mem ht)
  have hlast : (e.lastFace : Int) = t.sides - 1 + t.sides * (k - 1) := by
    rw [lastFace, Int.toNat_of_nonneg (by omega), hk]
    ring
  rw [hlast, Int.add_mul_emod_self_left, Int.emod_eq_of_lt (by omega) (by omega)]
  ring

/-- A roll draws each die of its terms once and in order, divides the dice of each term as
its rule has it, and has a total between the minimum and the maximum. On some stream every
roll has the minimum, and on some every roll has the maximum. -/
theorem rolled_and_attains_bounds {e : Expression} (h : e.Valid) :
    (∀ faces start, ∃ parts,
      Rolled faces start e.terms parts ∧
      (e.roll faces start).1.kept = parts.flatMap Prod.fst ∧
      (e.roll faces start).1.discarded = parts.flatMap Prod.snd ∧
      ((e.roll faces start).2 : Int) = start + wholeSum (e.terms.map Term.count) ∧
      (e.roll faces start).1.total = wholeSum (e.roll faces start).1.kept + e.modifier ∧
      e.minimum ≤ (e.roll faces start).1.total ∧
      (e.roll faces start).1.total ≤ e.maximum) ∧
    (∃ faces, ∀ start, (e.roll faces start).1.total = e.minimum) ∧
    (∃ faces, ∀ start, (e.roll faces start).1.total = e.maximum) := by
  refine ⟨fun faces start => ?_, ⟨fun _ => 0, fun start => ?_⟩,
    ⟨fun _ => e.lastFace, fun start => ?_⟩⟩
  · obtain ⟨parts, hrolled, hdice, hnext⟩ := exists_rolled h.1 faces start
    obtain ⟨hlow, hhigh⟩ := total_bounds h (die_bounds h faces) start
    rw [← minimum_eq] at hlow
    exact ⟨parts, hrolled, congrArg Prod.fst hdice, congrArg Prod.snd hdice, hnext, rfl, hlow,
      hhigh⟩
  · have hdie : ∀ t ∈ e.terms, ∀ _ : Nat, 1 ≤ 1 + ((0 : Nat) : Int) % t.sides ∧
        1 + ((0 : Nat) : Int) % t.sides ≤ 1 := by
      intro t _ _
      rw [Nat.cast_zero, Int.zero_emod]
      omega
    obtain ⟨hlow, hhigh⟩ := total_bounds h hdie start
    rw [minimum_eq]
    exact le_antisymm hhigh hlow
  · have hdie : ∀ t ∈ e.terms, ∀ _ : Nat, t.sides ≤ 1 + (e.lastFace : Int) % t.sides ∧
        1 + (e.lastFace : Int) % t.sides ≤ t.sides :=
      fun t ht _ => ⟨(lastFace_emod h t ht).ge, (lastFace_emod h t ht).le⟩
    obtain ⟨hlow, hhigh⟩ := total_bounds h hdie start
    exact le_antisymm hhigh hlow

/-- Two terms, the second of which keeps its lowest dice. -/
theorem rolled_and_attains_bounds_keep_lowest :
    let e : Expression := ⟨[⟨2, 8, none⟩, ⟨4, 6, some ⟨.lowest, 3⟩⟩], -1⟩
    e.Valid ∧
    (∃ parts, Rolled id 0 e.terms parts ∧
      (e.roll id 0).1.kept = parts.flatMap Prod.fst ∧
      (e.roll id 0).1.discarded = parts.flatMap Prod.snd ∧ ((e.roll id 0).2 : Int) = 6) ∧
    (∃ faces, ∀ start, (e.roll faces start).1.total = 4) ∧
    (∃ faces, ∀ start, (e.roll faces start).1.total = 33) := by
  intro e
  have h : e.Valid := by decide
  obtain ⟨hroll, hlow, hhigh⟩ := rolled_and_attains_bounds h
  obtain ⟨parts, hrolled, hkept, hdiscarded, hnext, -⟩ := hroll id 0
  exact ⟨h, ⟨parts, hrolled, hkept, hdiscarded, hnext⟩, hlow, hhigh⟩

end Expression

end ExpectedDamage.Dice
