import ExpectedDamage.Character.Basic
import ExpectedDamage.Document.Json.Reader
import ExpectedDamage.Document.Yaml.Node
import ExpectedDamage.Document.Yaml.Reader
import ExpectedDamage.Keyed
import ExpectedDamage.Library.Folder
import ExpectedDamage.Notice
import ExpectedDamage.Spell.Basic
import ExpectedDamage.Text.Quoted
/-!
# Loading records

Spells and characters are loaded from JSON or YAML files, told apart by the suffix.
A file holds one record, a list of them, or an object that has them under a key.
Loading is all or nothing: the first record with a problem ends it. What a document in YAML
holds is told by a reader that the loading is given.
-/

namespace ExpectedDamage.Library

open Record

/-- What is wrong with a file, to be reported to whoever named it. -/
inductive FileFault where
  | notFound
  | directory
  | unsupported (suffix : String)
  | malformedJson (fault : Document.Json.Fault) (document : List Char)
  | malformedYaml
  | noSpells
  | noCharacter
  /-- A spell, counted from one, has problems. -/
  | invalidSpell (number : Nat) (problems : List Problem)
  | invalidCharacter (problems : List Problem)
  deriving DecidableEq, Repr

/-- The text of a fault of a file, whose path is given as it is shown; the text of
problems is made by the given function. -/
def FileFault.messageWith (problemsText : List Problem → String) (path : String) :
    FileFault → String
  | notFound => "File not found: " ++ path
  | directory =>
    "Failed to parse " ++ path ++ ": [Errno 21] Is a directory: " ++ Text.quoted path
  | unsupported suffix =>
    "Unsupported file format: " ++ suffix ++ ". Use .yaml, .yml, or .json"
  | malformedJson fault document => "Failed to parse " ++ path ++ ": " ++ fault.message document
  | malformedYaml => "Failed to parse " ++ path ++ ": invalid YAML"
  | noSpells => "Expected a list of spells in " ++ path
  | noCharacter => "Expected a character mapping in " ++ path
  | invalidSpell number problems =>
    "Invalid spell #" ++ toString number ++ " in " ++ path ++ ": " ++ problemsText problems
  | invalidCharacter problems =>
    "Invalid character in " ++ path ++ ": " ++ problemsText problems

/-- The text of a fault with every problem of the record. -/
def FileFault.message (path : String) (f : FileFault) : String :=
  f.messageWith Problem.texts (shownPath path)

inductive LoadFault where
  | file (fault : FileFault)
  /-- The bytes are no UTF-8 text. -/
  | undecodable
  /-- What stands in place of a list of spells has no parts. -/
  | partless
  /-- A number of the file, or another of its scalars, cannot be read. -/
  | arithmetic (fault : ArithmeticFault)
  deriving DecidableEq, Repr

/-- The text of the bytes of a file. -/
def decode (bytes : ByteArray) : Except LoadFault (List Char) :=
  match String.fromUTF8? bytes with
  | some text => .ok (Document.normalizeLines text.toList)
  | none => .error .undecodable

/-- The value of the bytes of a file. -/
def readBytes (suffix : String) (bytes : ByteArray) (yaml : Document.Yaml.Reader) :
    Except LoadFault Value := do
  if suffix = ".yaml" || suffix = ".yml" then
    match yaml (← decode bytes) with
    | .ok value => return value
    | .error .malformed => throw (.file .malformedYaml)
    | .error (.escaped fault) => throw (.arithmetic fault)
  else if suffix = ".json" then
    let document ← decode bytes
    match Document.Json.read document with
    | .ok value => return value
    | .error (.malformed fault) => throw (.file (.malformedJson fault document))
    | .error (.arithmetic fault) => throw (.arithmetic fault)
  else throw (.file (.unsupported suffix))

def readFile (folder : Folder) (path : String) (yaml : Document.Yaml.Reader) :
    Except LoadFault Value :=
  match folder.find? path with
  | none => .error (.file .notFound)
  | some .directory => .error (.file .directory)
  | some (.file bytes) => readBytes (suffix path) bytes yaml

/-- The records that a value holds in place of a list. A text has its characters as
parts and an object its keys, which are no records. -/
def parts : Value → Except LoadFault (List Value)
  | .list items => .ok items
  | .text s => .ok (s.toList.map fun c => .text c.toString)
  | .object fields => .ok (fields.map fun (key, _) => .text key)
  | _ => .error .partless

/-- The records of spells in a value: a list of them, an object with a list of them, or
a single one. -/
def spellRecords : Value → Except LoadFault (List Value)
  | .list records => .ok records
  | .object fields =>
    match Keyed.lookup? fields "spells" with
    | some records => parts records
    | none => .ok [.object fields]
  | _ => .error (.file .noSpells)

def readSpells (number : Nat) : List Value → Except LoadFault (List Spell)
  | [] => .ok []
  | record :: rest =>
    match Spell.read record with
    | .ok spell => (spell :: ·) <$> readSpells (number + 1) rest
    | .refused problems => .error (.file (.invalidSpell number problems))

/-- The spells of a file. -/
def loadSpells (folder : Folder) (path : String)
    (yaml : Document.Yaml.Reader := Document.Yaml.read) : Except LoadFault (List Spell) := do
  readSpells 1 (← spellRecords (← readFile folder path yaml))

/-- The character of a file: the object in it, or what it has under a key. -/
def loadCharacter (folder : Folder) (path : String)
    (yaml : Document.Yaml.Reader := Document.Yaml.read) : Except LoadFault Character := do
  match ← readFile folder path yaml with
  | .object fields =>
    match Character.read ((Keyed.lookup? fields "character").getD (.object fields)) with
    | .ok character => return character
    | .refused problems => throw (.file (.invalidCharacter problems))
  | _ => throw (.file .noCharacter)

def loadedNotice (path : String) (spells : List Spell) : Notice :=
  ⟨.info, "Loaded " ++ toString spells.length ++ " spells from " ++ shownPath path⟩

end ExpectedDamage.Library
