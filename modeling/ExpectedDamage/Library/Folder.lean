import ExpectedDamage.Text.Lowercase
import ExpectedDamage.Text.Split
/-!
# Folders of files

The files that records and settings come from. A folder is a value: names with
bytes or with directories. Paths are compared after their empty parts and their
dots are dropped, and a path that only leads to other files is a directory.
-/

namespace ExpectedDamage.Library

/-- What a name stands for. -/
inductive Entry where
  | file (bytes : ByteArray)
  | directory

/-- Files and directories by their paths. -/
structure Folder where
  entries : List (String × Entry)

def pathParts (path : String) : List String :=
  ((Text.partsBetween '/' path.toList).map String.ofList).filter fun part =>
    part ≠ "" && part ≠ "."

/-- A path as it is shown: its parts, or a dot if there is none. -/
def shownPath (path : String) : String :=
  let parts := pathParts path
  let relative := "/".intercalate parts
  if path.startsWith "/" then "/" ++ relative
  else if parts.isEmpty then "."
  else relative

/-- The ending of a file name from its last dot on, unless the dot is its first or its
last character. -/
def suffixOf (name : List Char) : List Char :=
  let ending := name.reverse.takeWhile (· ≠ '.')
  if ending.isEmpty || name.length ≤ ending.length + 1 then [] else '.' :: ending.reverse

/-- The suffix of a path, in lower case. -/
def suffix (path : String) : String :=
  String.ofList (Text.lower (suffixOf ((pathParts path).getLast?.getD "").toList))

namespace Folder

/-- What a path leads to. The folder itself and the folders above it are directories. -/
def find? (f : Folder) (path : String) : Option Entry :=
  let parts := pathParts path
  let alike := f.entries.filter fun entry => entry.1.startsWith "/" == path.startsWith "/"
  if parts.all (· == "..") then some .directory
  else
    match alike.find? fun entry => pathParts entry.1 == parts with
    | some (_, entry) => some entry
    | none =>
      if alike.any fun entry => parts.isPrefixOf (pathParts entry.1) then some .directory
      else none

end Folder

end ExpectedDamage.Library
