import ExpectedDamage.Proofs.Record.Outcome
/-!
# Fields under their other names

A field has two names, and a record may give it under either. `Renaming` says that some keys of
a record are exchanged for the other names of their fields, none of them for a name that is
given as well. As long as no two fields share a name, every field is then given with the value
that it was given before (`FieldName.given?_renameKeys`), and so the record is read as it was
(`ReadsEitherName`).
-/

namespace ExpectedDamage

namespace Keyed

variable {α : Type}

theorem lookup?_eq_none_iff {entries : List (String × α)} {key : String} :
    lookup? entries key = none ↔ key ∉ entries.map Prod.fst := by
  rw [lookup?, Option.map_eq_none_iff, List.find?_eq_none]
  constructor
  · intro h hmem
    obtain ⟨entry, hentry, rfl⟩ := List.mem_map.1 hmem
    exact h entry hentry (beq_self_eq_true _)
  · intro h entry hentry heq
    exact h (List.mem_map.2 ⟨entry, hentry, eq_of_beq heq⟩)

/-- A key is found under its new name. -/
theorem lookup?_renamed {rename : String → String} {entries : List (String × α)}
    {key newKey : String} (h : ∀ k ∈ entries.map Prod.fst, rename k = newKey ↔ k = key) :
    lookup? (entries.map fun (k, v) => (rename k, v)) newKey = lookup? entries key := by
  induction entries with
  | nil => rfl
  | cons entry rest ih =>
      obtain ⟨k, v⟩ := entry
      rw [List.map_cons, List.forall_mem_cons] at h
      obtain ⟨hhead, hrest⟩ := h
      have ih := ih hrest
      by_cases hk : k = key
      · have hnew : rename k = newKey := hhead.2 hk
        simp [lookup?, hk ▸ hnew, hk]
      · have hnew : ¬ rename k = newKey := fun heq => hk (hhead.1 heq)
        simpa [lookup?, hk, hnew] using ih

/-- A value that is changed by its key is found changed. -/
theorem lookup?_changed (change : String → α → α) (entries : List (String × α)) (key : String) :
    lookup? (entries.map fun (k, v) => (k, change k v)) key =
      (lookup? entries key).map (change key) := by
  induction entries with
  | nil => rfl
  | cons entry rest ih =>
      obtain ⟨k, v⟩ := entry
      by_cases hk : k = key
      · simp [lookup?, hk]
      · simpa [lookup?, hk] using ih

end Keyed

namespace Record

namespace FieldName

def IsName (f : FieldName) (key : String) : Prop := key = f.name ∨ key = f.other

instance (f : FieldName) (key : String) : Decidable (f.IsName key) :=
  inferInstanceAs (Decidable (key = f.name ∨ key = f.other))

/-- Two fields that have a name in common. -/
def Shares (f g : FieldName) : Prop := g.IsName f.name ∨ g.IsName f.other

instance (f g : FieldName) : Decidable (f.Shares g) :=
  inferInstanceAs (Decidable (g.IsName f.name ∨ g.IsName f.other))

theorem shares_of_isName {f g : FieldName} {key : String} (hf : f.IsName key)
    (hg : g.IsName key) : f.Shares g := by
  rcases hf with rfl | rfl
  · exact .inl hg
  · exact .inr hg

end FieldName

/-- No two fields have a name in common. -/
def Distinct (names : List FieldName) : Prop := ∀ f ∈ names, ∀ g ∈ names, f.Shares g → f = g

instance (names : List FieldName) : Decidable (Distinct names) :=
  inferInstanceAs (Decidable (∀ f ∈ names, ∀ g ∈ names, f.Shares g → f = g))

/-- Every key that is renamed is a name of a field and becomes the other name of that field,
which is not given itself. -/
def Renaming (names : List FieldName) (fields : List (String × Value))
    (rename : String → String) : Prop :=
  ∀ key ∈ fields.map Prod.fst, rename key ≠ key → ∃ f ∈ names,
    (key = f.name ∧ rename key = f.other ∨ key = f.other ∧ rename key = f.name) ∧
      rename key ∉ fields.map Prod.fst

def renameKeys (rename : String → String) (fields : List (String × Value)) :
    List (String × Value) :=
  fields.map fun (key, v) => (rename key, v)

/-- An object with other keys; any other value as it is. -/
def Value.renamed (rename : String → String) : Value → Value
  | .object fields => .object (renameKeys rename fields)
  | v => v

/-- The fields with other keys inside the object under one of them. -/
def renameWithin (outer : String) (rename : String → String) (fields : List (String × Value)) :
    List (String × Value) :=
  fields.map fun (key, v) => (key, if key = outer then v.renamed rename else v)

theorem lookup?_renameWithin (outer : String) (rename : String → String)
    (fields : List (String × Value)) (key : String) :
    Keyed.lookup? (renameWithin outer rename fields) key =
      (Keyed.lookup? fields key).map fun v => if key = outer then v.renamed rename else v :=
  Keyed.lookup?_changed (fun key (v : Value) => if key = outer then v.renamed rename else v) fields
    key

namespace FieldName

variable {names : List FieldName} {fields : List (String × Value)} {rename : String → String}

theorem given?_plain (name : String) : (plain name).given? fields = Keyed.lookup? fields name :=
  Option.or_self

/-- A field under other names is given what it was given before. -/
theorem given?_renameWithin {f : FieldName} {outer : String} (h : ¬ f.IsName outer) :
    f.given? (renameWithin outer rename fields) = f.given? fields := by
  have hname : f.name ≠ outer := fun heq => h (.inl heq.symm)
  have hother : f.other ≠ outer := fun heq => h (.inr heq.symm)
  simp [given?, lookup?_renameWithin, hname, hother]

/-- Names of a field become names of that field, and no other keys do. -/
theorem isName_rename_iff (hnames : Distinct names) (h : Renaming names fields rename)
    {f : FieldName} (hf : f ∈ names) {key : String} (hkey : key ∈ fields.map Prod.fst) :
    f.IsName (rename key) ↔ f.IsName key := by
  by_cases hfixed : rename key = key
  · rw [hfixed]
  · obtain ⟨g, hg, hswap, -⟩ := h key hkey hfixed
    have hold : g.IsName key := hswap.imp And.left And.left
    have hnew : g.IsName (rename key) := hswap.symm.imp And.right And.right
    constructor
    · intro hname
      obtain rfl := hnames f hf g hg (shares_of_isName hname hnew)
      exact hold
    · intro hname
      obtain rfl := hnames f hf g hg (shares_of_isName hname hold)
      exact hnew

/-- If the one name of a field is not given, the field has the value of the other name. -/
theorem given?_of_not_mem {f : FieldName} {key absent : String}
    (hswap : key = f.name ∧ absent = f.other ∨ key = f.other ∧ absent = f.name)
    (habsent : absent ∉ fields.map Prod.fst) : f.given? fields = Keyed.lookup? fields key := by
  have hnone := Keyed.lookup?_eq_none_iff.2 habsent
  rcases hswap with ⟨rfl, rfl⟩ | ⟨rfl, rfl⟩
  · rw [given?, hnone, Option.none_or]
  · rw [given?, hnone, Option.or_none]

theorem isName_cases {f : FieldName} {key other : String}
    (hswap : key = f.name ∧ other = f.other ∨ key = f.other ∧ other = f.name) {k : String}
    (h : f.IsName k) : k = key ∨ k = other := by
  rcases hswap with ⟨rfl, rfl⟩ | ⟨rfl, rfl⟩
  · exact h
  · exact h.symm

/-- A field is given the value that it was given before. -/
theorem given?_renameKeys (hnames : Distinct names) (h : Renaming names fields rename)
    {f : FieldName} (hf : f ∈ names) : f.given? (renameKeys rename fields) = f.given? fields := by
  by_cases hmoved : ∃ key ∈ fields.map Prod.fst, f.IsName key ∧ rename key ≠ key
  · obtain ⟨key, hkey, hname, hmoved⟩ := hmoved
    obtain ⟨g, hg, hswap, habsent⟩ := h key hkey hmoved
    obtain rfl := hnames f hf g hg (shares_of_isName hname (hswap.imp And.left And.left))
    -- Only the one name is given, so only the other one is given afterwards.
    have honly : ∀ k ∈ fields.map Prod.fst, f.IsName (rename k) ↔ k = key := by
      intro k hk
      rw [isName_rename_iff hnames h hf hk]
      constructor
      · intro hk'
        exact (isName_cases hswap hk').resolve_right fun heq => habsent (heq ▸ hk)
      · rintro rfl
        exact hname
    have hold : key ∉ (renameKeys rename fields).map Prod.fst := by
      intro hmem
      rw [renameKeys, List.map_map] at hmem
      obtain ⟨entry, hentry, heq⟩ := List.mem_map.1 hmem
      have heq : rename entry.1 = key := heq
      obtain rfl := (honly entry.1 (List.mem_map_of_mem hentry)).1 (heq ▸ hname)
      exact hmoved heq
    have hnew : Keyed.lookup? (renameKeys rename fields) (rename key) =
        Keyed.lookup? fields key := by
      apply Keyed.lookup?_renamed
      intro k hk
      constructor
      · intro heq
        exact (honly k hk).1 (heq ▸ (honly key hkey).2 rfl)
      · rintro rfl
        rfl
    have hswap' := hswap.symm.imp And.symm And.symm
    rw [given?_of_not_mem hswap' hold, hnew, given?_of_not_mem hswap habsent]
  · have hfixed : ∀ key ∈ fields.map Prod.fst, f.IsName key → rename key = key :=
      fun key hkey hname => Classical.byContradiction fun hne => hmoved ⟨key, hkey, hname, hne⟩
    have hlookup : ∀ name, f.IsName name →
        Keyed.lookup? (renameKeys rename fields) name = Keyed.lookup? fields name := by
      intro name hname
      apply Keyed.lookup?_renamed
      intro key hkey
      constructor
      · intro heq
        have hold := (isName_rename_iff hnames h hf hkey).1 (heq ▸ hname)
        exact (hfixed key hkey hold).symm.trans heq
      · rintro rfl
        exact hfixed key hkey hname
    rw [given?, given?, hlookup f.other (.inr rfl), hlookup f.name (.inl rfl)]

end FieldName

/-- A field may be given under either of its names: if some keys are exchanged for the other
names of their fields, the same record is read. -/
def ReadsEitherName {α : Type} (names : List FieldName) (read : Value → Checked α) : Prop :=
  ∀ fields rename, Renaming names fields rename →
    ∀ a, read (.object (renameKeys rename fields)) = .ok a ↔ read (.object fields) = .ok a

/-- A record may be given under either names if it depends on the values of its fields only. -/
theorem readsEitherName_of_congr {α : Type} {names : List FieldName}
    {readFields : List (String × Value) → Checked α} (hnames : Distinct names)
    (h : ∀ fields fields', (∀ f ∈ names, f.given? fields' = f.given? fields) →
      (readFields fields').value? = (readFields fields).value?) :
    ReadsEitherName names fun v => v.asRecord readFields := by
  intro fields rename hrename
  apply Checked.eq_ok_iff_of_value?_eq
  exact h fields _ fun f hf => f.given?_renameKeys hnames hrename hf

end Record

end ExpectedDamage
