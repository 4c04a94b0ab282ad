import ExpectedDamage.Keyed
import ExpectedDamage.Text.Blank
import ExpectedDamage.Text.Search
/-!
# Files of variables

A file of variables is a row of bindings, one on a line: a name and, behind an equals
sign, a value. A value in quotes may go on over several lines and has escapes; any
other value ends with its line, or where a blank and then the mark of a comment follow.
What cannot be read is passed over to the end of its line, and the next binding begins
there.

A value may mention variables, which are those bound before it and those of the
environment. A mention may carry a text for the case that there is no such variable.
-/

namespace ExpectedDamage.Library

/-- A name, and its value if it was given one. -/
structure Binding where
  name : String
  value : Option String
  deriving DecidableEq, Repr

namespace Binding

/-- What is read, or the text from the place on where reading breaks off. -/
abbrev Reading := Except (List Char)

/-- A blank that does not end the line. -/
def isGap (c : Char) : Bool := Text.isBlank c && c ≠ '\n'

def nextLine (text : List Char) : List Char := (text.dropWhile (· ≠ '\n')).drop 1

/-- The text without the word for a binding that is handed on, if blanks follow it. -/
def withoutExport (text : List Char) : List Char :=
  match Text.after? "export".toList text with
  | some (c :: rest) => if isGap c then rest.dropWhile isGap else text
  | _ => text

/-- The name of a binding. A comment has none. -/
def readName (text : List Char) : Reading (Option (List Char) × List Char) :=
  match text with
  | '#' :: _ => .ok (none, text)
  | '\'' :: inside =>
    match inside.span (· ≠ '\'') with
    | (name, _ :: rest) => if name.isEmpty then .error text else .ok (some name, rest)
    | _ => .error text
  | _ =>
    match text.span fun c => c ≠ '=' && c ≠ '#' && !Text.isBlank c with
    | ([], _) => .error text
    | (name, rest) => .ok (some name, rest)

/-- The text up to the closing quote, and what follows. A quote behind a backslash closes
only if there is no other that does. -/
def quoted? (quote : Char) : List Char → Option (List Char × List Char)
  | [] => none
  | '\\' :: c :: rest =>
    if c = quote then
      match quoted? quote rest with
      | some (value, after) => some ('\\' :: c :: value, after)
      | none => some (['\\'], rest)
    else (quoted? quote (c :: rest)).map fun (value, after) => ('\\' :: value, after)
  | c :: rest =>
    if c = quote then some ([], rest)
    else (quoted? quote rest).map fun (value, after) => (c :: value, after)

/-- The character that an escape stands for between quotes. -/
def unescaped? (quote c : Char) : Option Char :=
  if c = '\\' || c = quote then some c
  else if quote = '\'' then none
  else
    match c with
    | '\'' => some c
    | 'a' => some '\x07'
    | 'b' => some '\x08'
    | 'f' => some '\x0c'
    | 'n' => some '\n'
    | 'r' => some '\r'
    | 't' => some '\t'
    | 'v' => some '\x0b'
    | _ => none

/-- The text between quotes without its escapes. -/
def unescape (quote : Char) : List Char → List Char
  | '\\' :: c :: rest =>
    match unescaped? quote c with
    | some e => e :: unescape quote rest
    | none => '\\' :: unescape quote (c :: rest)
  | c :: rest => c :: unescape quote rest
  | [] => []

/-- A value without quotes up to its comment; the character before it is given. -/
def untilComment (before : Char) : List Char → List Char
  | [] => []
  | c :: rest =>
    if c = '#' && Text.isBlank before then [] else c :: untilComment c rest

/-- The value of a binding, from its first character on. -/
def readValue (text : List Char) : Reading (List Char × List Char) :=
  match text with
  | [] => .ok ([], text)
  | c :: inside =>
    if c = '\'' || c = '"' then
      match quoted? c inside with
      | some (value, rest) => .ok (unescape c value, rest)
      | none => .error text
    else
      let (line, rest) := text.span (· ≠ '\n')
      .ok (Text.trim (untilComment '=' line), rest)

/-- The text without a comment in front. -/
def withoutComment (text : List Char) : List Char :=
  match text.dropWhile isGap with
  | '#' :: rest => rest.dropWhile (· ≠ '\n')
  | _ => text

/-- The text behind the end of a line, before which nothing but a comment may stand. -/
def readEnd (text : List Char) : Reading (List Char) :=
  let rest := withoutComment text
  match rest.dropWhile isGap with
  | [] => .ok []
  | '\n' :: next => .ok next
  | _ => .error rest

/-- The binding at the beginning of a text; a comment is none. -/
def read (text : List Char) : Reading (Option Binding × List Char) := do
  let (name, rest) ← readName (withoutExport text)
  let (value, rest) ←
    match rest.dropWhile isGap with
    | '=' :: rest => do
      let (value, rest) ← readValue (rest.dropWhile isGap)
      pure (some (String.ofList value), rest)
    | rest => pure (none, rest)
  let rest ← readEnd rest
  return (name.map fun name => ⟨String.ofList name, value⟩, rest)

/-- The bindings of a text, at most the given number of lines. -/
def allWithin : Nat → List Char → List Binding
  | 0, _ => []
  | n + 1, text =>
    match text.dropWhile Text.isBlank with
    | [] => []
    | text =>
      match read text with
      | .ok (some b, rest) => b :: allWithin n rest
      | .ok (none, rest) => allWithin n rest
      | .error rest => allWithin n (nextLine rest)

/-- The bindings of a text. Each takes a character at least. -/
def all (text : List Char) : List Binding := allWithin text.length text

end Binding

/-- A mention of a variable at the beginning of a text: the name in braces behind a dollar
sign, with a text behind a colon and a minus if it has one. The number of its characters
comes with it. -/
def mention? (text : List Char) : Option (String × String × Nat) := do
  let inside ← Text.after? ['$', '\x7b'] text
  let (name, rest) := inside.span fun c => c ≠ '\x7d' && c ≠ ':'
  let (otherwise, rest) :=
    match rest with
    | ':' :: '-' :: rest => rest.span (· ≠ '\x7d')
    | rest => ([], rest)
  let '\x7d' :: rest := rest | none
  return (String.ofList name, String.ofList otherwise, text.length - rest.length)

/-- The text with its mentions replaced, behind a number of characters to pass over. -/
def replaceMentions (value? : String → Option String) : Nat → List Char → List Char
  | _, [] => []
  | n + 1, _ :: rest => replaceMentions value? n rest
  | 0, c :: rest =>
    match mention? (c :: rest) with
    | some (name, otherwise, length) =>
      ((value? name).getD otherwise).toList ++ replaceMentions value? (length - 1) rest
    | none => c :: replaceMentions value? 0 rest

/-- The value of a variable for those who mention it; a name without a value counts as
empty. What the file has bound so far goes before the environment. -/
def mentioned? (environment : List (String × String)) (bound : List (String × Option String))
    (name : String) : Option String :=
  match Keyed.lookup? bound name with
  | some value => some (value.getD "")
  | none => Keyed.lookup? environment name

/-- The variables of a file, in the order in which their names come up first. -/
def fileVariables (environment : List (String × String)) (text : List Char) :
    List (String × Option String) :=
  (Binding.all text).foldl (fun bound b =>
    let value := b.value.map fun value =>
      String.ofList (replaceMentions (mentioned? environment bound) 0 value.toList)
    Keyed.insert b.name value bound) []

end ExpectedDamage.Library
