import ExpectedDamage.Proofs.Area.Coverage
import ExpectedDamage.Proofs.Area.Magnitude
/-!
# How the squares of a template grow

From the `edge` of its tables on a template is measured by its shape, and what is measured
grows with the size (`Template.measured?_mono`). The sizes on the grid up to the edge are
finitely many. So a larger template covers at least as many squares (`squares?_le_iff`), with
exceptions where a measured size and a size of a table meet (`Template.Shrinks`): the square
of a cone's length is more than the rows of the next cone in the table, and a cylinder that no
table has covers four squares, however large it is.
-/

namespace ExpectedDamage.Area

namespace Template

/-- The first size on the grid, in feet, that is larger than all sizes of the tables. -/
def edge : Template → Nat
  | cone => 65
  | cylinder => 45
  | emanation => 45
  | cube => 35
  | line => 125
  | burst => 45

theorem squares?_of_edge_le {t : Template} {size : Nat} (h : t.edge ≤ size) :
    t.squares? size = t.measured? size := by
  have hentries : ∀ entry ∈ t.entries, entry.1 < t.edge := by cases t <;> decide
  rw [squares?]
  split
  · next squares hlisted =>
      exact absurd h (hentries _ (mem_entries_of_listed? hlisted)).not_ge
  · rfl

/-- Whether a template of a size covers more squares than that of a larger size. -/
def Shrinks (t : Template) (small large : Nat) : Prop :=
  match t with
  | cone => small = 25 ∧ large = 30 ∨ small ∈ [45, 50, 55] ∧ large = 60
  | cylinder => small ∈ [10, 15, 20, 30, 40] ∧ large ∉ [10, 15, 20, 30, 40]
  | emanation | cube | line | burst => False

instance (t : Template) (small large : Nat) : Decidable (t.Shrinks small large) :=
  match t with
  | cone => inferInstanceAs (Decidable (_ ∨ _))
  | cylinder => inferInstanceAs (Decidable (_ ∧ _))
  | emanation | cube | line | burst => inferInstanceAs (Decidable False)

theorem lt_edge_of_mem : ∀ size ∈ [10, 15, 20, 30, 40], size < cylinder.edge := by decide

/-- Only a cylinder shrinks to a size from the edge on, and then from any size of its tables
but the least. -/
theorem shrinks_iff_of_edge_le {t : Template} {small large : Nat} (h : t.edge ≤ large) :
    t.Shrinks small large ↔ t = cylinder ∧ small ∈ [10, 15, 20, 30, 40] := by
  cases t with
  | cone =>
      have hlarge : 65 ≤ large := h
      refine iff_of_false ?_ nofun
      rintro (⟨-, rfl⟩ | ⟨-, rfl⟩) <;> omega
  | cylinder =>
      have hlarge : large ∉ [10, 15, 20, 30, 40] := fun hmem =>
        (lt_edge_of_mem large hmem).not_ge h
      exact ⟨fun h => ⟨rfl, h.1⟩, fun h => ⟨h.2, hlarge⟩⟩
  | _ => exact iff_of_false id nofun

/-- The sizes on the grid up to the edge, in squares. -/
def near (t : Template) : List Nat := List.range' 1 (t.edge / 5)

theorem exists_mem_near {t : Template} {size : Nat} (hpos : 0 < size) (hfive : 5 ∣ size)
    (h : size ≤ t.edge) : ∃ i ∈ t.near, size = 5 * i := by
  obtain ⟨i, rfl⟩ := hfive
  refine ⟨i, ?_, rfl⟩
  rw [near, List.mem_range'_1]
  omega

theorem squares?_near (t : Template) : ∀ i ∈ t.near, ∀ j ∈ t.near, i ≤ j →
    ∀ m ∈ (t.squares? (5 * i)).toOption, ∀ n ∈ (t.squares? (5 * j)).toOption,
      (m ≤ n ↔ ¬ t.Shrinks (5 * i) (5 * j)) := by
  cases t <;> decide +kernel

theorem squares?_le_iff_of_le_edge {t : Template} {a b m n : Nat} (ha : 0 < a) (hfive : 5 ∣ a)
    (hfive' : 5 ∣ b) (hab : a ≤ b) (hb : b ≤ t.edge) (hm : t.squares? a = .ok m)
    (hn : t.squares? b = .ok n) : m ≤ n ↔ ¬ t.Shrinks a b := by
  obtain ⟨i, hi, rfl⟩ := exists_mem_near ha hfive (hab.trans hb)
  obtain ⟨j, hj, rfl⟩ := exists_mem_near (ha.trans_le hab) hfive' hb
  exact t.squares?_near i hi j hj (by omega) m (by rw [hm]; rfl) n (by rw [hn]; rfl)

/-- Of two sizes on the grid, the larger one has no fewer squares unless the template
shrinks. -/
theorem squares?_le_iff {t : Template} {a b m n : Nat} (ha : 0 < a) (hfive : 5 ∣ a)
    (hfive' : 5 ∣ b) (hab : a ≤ b) (hm : t.squares? a = .ok m) (hn : t.squares? b = .ok n) :
    m ≤ n ↔ ¬ t.Shrinks a b := by
  rcases Nat.le_total b t.edge with hb | hb
  · exact squares?_le_iff_of_le_edge ha hfive hfive' hab hb hm hn
  rw [squares?_of_edge_le hb] at hn
  rw [shrinks_iff_of_edge_le hb]
  rcases Nat.le_total t.edge a with ha' | ha'
  · -- Both sizes are measured.
    rw [squares?_of_edge_le ha'] at hm
    refine iff_of_true (t.measured?_mono hab hm hn) ?_
    rintro ⟨rfl, hmem⟩
    exact (lt_edge_of_mem a hmem).not_ge ha'
  · -- The step to the larger size goes over the edge.
    have hgrid : 5 ∣ t.edge ∧ t.edge ≤ 2 ^ 7 := by cases t <;> decide
    obtain ⟨p, hp, -⟩ := t.exists_measured? hgrid.2 (by decide)
    have hedge := squares?_le_iff_of_le_edge ha hfive hgrid.1 ha' le_rfl hm
      ((squares?_of_edge_le le_rfl).trans hp)
    rw [shrinks_iff_of_edge_le le_rfl] at hedge
    rw [← hedge]
    by_cases ht : t = cylinder
    · subst ht
      obtain rfl : 4 = p := Except.ok.inj hp
      obtain rfl : 4 = n := Except.ok.inj hn
      exact Iff.rfl
    · have hmp : m ≤ p := hedge.2 fun h => ht h.1
      exact iff_of_true (hmp.trans (t.measured?_mono hb hp hn)) hmp

end Template

end ExpectedDamage.Area
