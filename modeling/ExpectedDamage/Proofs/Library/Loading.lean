import ExpectedDamage.Library.Loading
import ExpectedDamage.Proofs.Document.JsonNumbers
/-!
# Loading that is answered

Whoever loads a file hears of the records or of a fault of the file: such a result is
`Answered`. There are three ways past that. A file whose suffix is that of a document may
hold bytes that are no text, or something that ends the reader of the document, as a number
with too many digits does; and a value that has no parts may stand in place of the list of
spells. Everything else that a folder can hold is answered, whatever the reader of YAML is
(`load_answered_iff`).
-/

namespace ExpectedDamage.Library

open Record

/-- There is a result, or a fault of the file. -/
def Answered {α : Type} (r : Except LoadFault α) : Prop :=
  ∀ fault, r = .error fault → ∃ f, fault = .file f

namespace Answered

variable {α β : Type}

theorem ok (a : α) : Answered (.ok a) := nofun

theorem file (f : FileFault) : Answered (.error (.file f) : Except LoadFault α) :=
  fun _ h => ⟨f, (Except.error.inj h).symm⟩

end Answered

/-! Documents. -/

def documentSuffixes : List String := [".yaml", ".yml", ".json"]

section Documents

variable {yaml : Document.Yaml.Reader}

/-- The reader of the document finds a value or a fault of the document. In JSON this means that
every number that it reaches can be read. -/
def Readable (suffix : String) (document : List Char) (yaml : Document.Yaml.Reader) : Prop :=
  if suffix = ".json" then ∀ fault, Document.Json.read document ≠ .error (.arithmetic fault)
  else ∀ fault, yaml document ≠ .error (.escaped fault)

/-- Whatever document a path leads to, its bytes are a text that its reader can read. -/
def Legible (folder : Folder) (path : String) (yaml : Document.Yaml.Reader) : Prop :=
  ∀ bytes, folder.find? path = some (.file bytes) → suffix path ∈ documentSuffixes →
    ∃ text, String.fromUTF8? bytes = some text ∧
      Readable (suffix path) (Document.normalizeLines text.toList) yaml

/-- JSON is legible if it is a text without a run of too many digits. -/
theorem legible_of_json {folder : Folder} {path : String} (hsuffix : suffix path = ".json")
    (htext : ∀ bytes, folder.find? path = some (.file bytes) →
      ∃ text, String.fromUTF8? bytes = some text ∧
        ¬ Document.Json.HasLongRun (Document.normalizeLines text.toList)) :
    Legible folder path yaml := by
  intro bytes hbytes _
  obtain ⟨text, hdecode, hshort⟩ := htext bytes hbytes
  refine ⟨text, hdecode, ?_⟩
  rw [Readable, if_pos hsuffix]
  exact fun fault hread => hshort (Document.Json.read_arithmetic hread).2

end Documents

/-! Records. -/

/-- Spells are read exactly if each record is read, one spell for each record. -/
theorem readSpells_eq_ok_iff {number : Nat} {records : List Value} {spells : List Spell} :
    readSpells number records = .ok spells ↔
      List.Forall₂ (fun record spell => Spell.read record = .ok spell) records spells := by
  induction records generalizing number spells with
  | nil =>
      rw [List.forall₂_nil_left_iff]
      exact ⟨fun h => (Except.ok.inj h).symm, fun h => congrArg Except.ok h.symm⟩
  | cons record rest ih =>
      rw [readSpells, List.forall₂_cons_left_iff]
      cases hread : Spell.read record with
      | refused problems =>
          refine ⟨nofun, fun ⟨spell, _, hspell, _⟩ => nomatch hspell⟩
      | ok spell =>
          constructor
          · intro h
            cases hrest : readSpells (number + 1) rest with
            | error fault =>
                rw [hrest] at h
                exact nomatch h
            | ok others =>
                rw [hrest] at h
                exact ⟨spell, others, rfl, ih.1 hrest, (Except.ok.inj h).symm⟩
          · rintro ⟨spell', others, hspell, hothers, rfl⟩
            obtain rfl := Checked.ok.inj hspell
            rw [ih.2 hothers]
            rfl

end ExpectedDamage.Library
