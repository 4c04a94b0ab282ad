import ExpectedDamage.Proofs.Library.Loading
import ExpectedDamage.Proofs.Record.Refusal
/-!
# All spells of a file, or none

A file holds its records of spells as a list, as a list under a key, or as a single record
(`HoldsRecords`). They are read in order and the first one that has problems ends the loading
(`FirstRefused`), so there is a spell for every record or a fault that names this record and
its problems, of which there is at least one (`loadSpells_all_or_nothing`). How a value was
read out of the file does not matter.
-/

namespace ExpectedDamage.Library

open Record

/-- The value of a file with the records of spells in it. -/
inductive HoldsRecords : Value → List Value → Prop where
  | list (records : List Value) : HoldsRecords (.list records) records
  | underKey {fields : List (String × Value)} {records : List Value}
      (h : Keyed.lookup? fields "spells" = some (.list records)) :
      HoldsRecords (.object fields) records
  | single {fields : List (String × Value)} (h : Keyed.lookup? fields "spells" = none) :
      HoldsRecords (.object fields) [.object fields]

theorem HoldsRecords.spellRecords_eq {v : Value} {records : List Value}
    (h : HoldsRecords v records) : spellRecords v = .ok records := by
  cases h with
  | list => rfl
  | underKey h =>
      rw [spellRecords, h]
      rfl
  | single h => rw [spellRecords, h]

theorem loadSpells_eq {folder : Folder} {path : String} {yaml : Document.Yaml.Reader} {v : Value}
    {records : List Value} (hread : readFile folder path yaml = .ok v)
    (h : HoldsRecords v records) : loadSpells folder path yaml = readSpells 1 records := by
  rw [loadSpells, hread]
  exact congrArg (· >>= readSpells 1) h.spellRecords_eq

/-- The record at a place, counted from zero, has problems, and none before it has. -/
structure FirstRefused (records : List Value) (place : Nat) (problems : List Problem) :
    Prop where
  refused : records[place]?.map Spell.read = some (.refused problems)
  before : ∀ record ∈ records.take place, ∃ spell, Spell.read record = .ok spell

section FirstRefused

variable {record : Value} {rest : List Value} {place : Nat} {problems : List Problem}

theorem not_firstRefused_nil : ¬ FirstRefused [] place problems := fun h => nomatch h.refused

theorem firstRefused_cons_of_refused {own : List Problem} (h : Spell.read record = .refused own) :
    FirstRefused (record :: rest) place problems ↔ place = 0 ∧ problems = own := by
  constructor
  · intro hfirst
    cases place with
    | zero =>
        have hrefused : some (Spell.read record) = some (.refused problems) := hfirst.refused
        rw [h] at hrefused
        exact ⟨rfl, (Checked.refused.inj (Option.some.inj hrefused)).symm⟩
    | succ place =>
        obtain ⟨spell, hspell⟩ := hfirst.before record List.mem_cons_self
        exact nomatch h.symm.trans hspell
  · rintro ⟨rfl, rfl⟩
    exact ⟨congrArg some h, nofun⟩

theorem firstRefused_cons_of_ok {spell : Spell} (h : Spell.read record = .ok spell) :
    FirstRefused (record :: rest) place problems ↔
      ∃ later, place = later + 1 ∧ FirstRefused rest later problems := by
  constructor
  · intro hfirst
    cases place with
    | zero =>
        have hrefused : some (Spell.read record) = some (.refused problems) := hfirst.refused
        rw [h] at hrefused
        exact nomatch hrefused
    | succ later =>
        exact ⟨later, rfl, hfirst.refused,
          fun record' hmem => hfirst.before record' (List.mem_cons_of_mem record hmem)⟩
  · rintro ⟨later, rfl, hfirst⟩
    exact ⟨hfirst.refused, List.forall_mem_cons.2 ⟨⟨spell, h⟩, hfirst.before⟩⟩

end FirstRefused

/-- Reading ends at the first record that has problems, with its number and its problems. -/
theorem readSpells_eq_error_iff {number : Nat} {records : List Value} {fault : LoadFault} :
    readSpells number records = .error fault ↔ ∃ place problems,
      FirstRefused records place problems ∧
        fault = .file (.invalidSpell (number + place) problems) := by
  induction records generalizing number with
  | nil => exact ⟨nofun, fun ⟨_, _, hfirst, _⟩ => absurd hfirst not_firstRefused_nil⟩
  | cons record rest ih =>
      rw [readSpells]
      cases hread : Spell.read record with
      | refused own =>
          simp only [firstRefused_cons_of_refused hread]
          constructor
          · intro h
            exact ⟨0, own, ⟨rfl, rfl⟩, (Except.error.inj h).symm⟩
          · rintro ⟨_, _, ⟨rfl, rfl⟩, rfl⟩
            rfl
      | ok spell =>
          simp only [firstRefused_cons_of_ok hread, map_eq_error_iff, ih]
          constructor
          · rintro ⟨later, problems, hfirst, rfl⟩
            exact ⟨later + 1, problems, ⟨later, rfl, hfirst⟩, by rw [Nat.add_right_comm]; rfl⟩
          · rintro ⟨_, problems, ⟨later, rfl, hfirst⟩, rfl⟩
            exact ⟨later, problems, hfirst, by rw [Nat.add_right_comm]; rfl⟩

theorem exists_readSpells_iff {number : Nat} {records : List Value} :
    (∃ spells, readSpells number records = .ok spells) ↔
      ∀ record ∈ records, ∃ spell, Spell.read record = .ok spell := by
  simp only [readSpells_eq_ok_iff]
  induction records with
  | nil => exact iff_of_true ⟨[], .nil⟩ nofun
  | cons record rest ih =>
      rw [List.forall_mem_cons, ← ih]
      constructor
      · rintro ⟨_, hall⟩
        cases hall with
        | cons hspell hspells => exact ⟨⟨_, hspell⟩, _, hspells⟩
      · rintro ⟨⟨spell, hspell⟩, spells, hspells⟩
        exact ⟨spell :: spells, .cons hspell hspells⟩

theorem FirstRefused.problems_ne_nil {records : List Value} {place : Nat}
    {problems : List Problem} (h : FirstRefused records place problems) : problems ≠ [] := by
  rintro rfl
  obtain ⟨record, -, hrefused⟩ := Option.map_eq_some_iff.1 h.refused
  exact Spell.explained_read record hrefused

/-- Whatever the reader of YAML is, the spells of a file are loaded exactly if each of its records
is read, and they are then what the records are read as, in the same order. Otherwise the fault
names the first record that is refused, counted from one, and its problems. So does the text of
the fault, which tells the path and the kind of each of them. -/
theorem loadSpells_all_or_nothing {folder : Folder} {path : String}
    {yaml : Document.Yaml.Reader} {v : Value} {records : List Value}
    (hread : readFile folder path yaml = .ok v) (hrecords : HoldsRecords v records) :
    ((∃ spells, loadSpells folder path yaml = .ok spells) ↔
      ∀ record ∈ records, ∃ spell, Spell.read record = .ok spell) ∧
    (∀ spells, loadSpells folder path yaml = .ok spells ↔
      List.Forall₂ (fun record spell => Spell.read record = .ok spell) records spells) ∧
    ∀ fault, loadSpells folder path yaml = .error fault ↔ ∃ place problems f,
      FirstRefused records place problems ∧ problems ≠ [] ∧ fault = .file f ∧
        f = .invalidSpell (place + 1) problems ∧
        f.message path = "Invalid spell #" ++ toString (place + 1) ++ " in " ++ shownPath path ++
          ": " ++ "; ".intercalate
            (problems.map fun p => ".".intercalate p.path ++ ": " ++ p.kind.code) := by
  rw [loadSpells_eq hread hrecords]
  refine ⟨exists_readSpells_iff, fun _ => readSpells_eq_ok_iff, fun fault => ?_⟩
  rw [readSpells_eq_error_iff]
  refine exists_congr fun place => exists_congr fun problems => ?_
  rw [Nat.add_comm 1 place]
  constructor
  · rintro ⟨hfirst, rfl⟩
    exact ⟨_, hfirst, hfirst.problems_ne_nil, rfl, rfl, rfl⟩
  · rintro ⟨_, hfirst, -, rfl, rfl, -⟩
    exact ⟨hfirst, rfl⟩

/-- The second of three records has no name, and the third is none at all. -/
theorem loadSpells_all_or_nothing_second :
    let folder : Folder :=
      ⟨[("book.json", .file "\x7b\"spells\":[\x7b\"name\":\"Ray\"\x7d,\x7b\x7d,3]\x7d".toUTF8)]⟩
    let records : List Value := [.object [("name", .text "Ray")], .object [], .int 3]
    readFile folder "book.json" Document.Yaml.read = .ok (.object [("spells", .list records)]) ∧
      HoldsRecords (.object [("spells", .list records)]) records ∧
      loadSpells folder "book.json" Document.Yaml.read =
        .error (.file (.invalidSpell 2 [⟨["name"], .missing⟩])) := by
  intro folder records
  have hread : readFile folder "book.json" Document.Yaml.read =
      .ok (.object [("spells", .list records)]) := by
    with_unfolding_all rfl
  have hrecords : HoldsRecords (.object [("spells", .list records)]) records := .underKey rfl
  have hfirst : FirstRefused records 1 [⟨["name"], .missing⟩] := by
    refine ⟨rfl, ?_⟩
    rintro record (_ | ⟨_, ⟨⟩⟩)
    exact ⟨_, rfl⟩
  exact ⟨hread, hrecords, ((loadSpells_all_or_nothing hread hrecords).2.2 _).2
    ⟨1, _, _, hfirst, hfirst.problems_ne_nil, rfl, rfl, rfl⟩⟩

end ExpectedDamage.Library
