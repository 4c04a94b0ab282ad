import ExpectedDamage.Notice
/-!
# What the command line prints

The output of a command is a list of events: lines of text, tables, panels and
notices. Texts carry marks for colours in square brackets; how they are drawn is not
decided here.
-/

namespace ExpectedDamage.CommandLine

/-- On which side the cells of a column stand. -/
inductive Justify where
  | left
  | center
  | right
  deriving DecidableEq, Repr

def Justify.name : Justify → String
  | left => "left"
  | center => "center"
  | right => "right"

/-- A column of a table. -/
structure Column where
  header : String
  justify : Justify := .left
  style : String := ""
  deriving DecidableEq, Repr

/-- A row of a table, with a style of its own or without. -/
structure TableRow where
  cells : List String
  style : Option String := none
  deriving DecidableEq, Repr

structure Table where
  title : String
  caption : Option String := none
  columns : List Column
  rows : List TableRow
  deriving DecidableEq, Repr

/-- A text in a frame. -/
structure Panel where
  text : String
  title : Option String := none
  style : String := "none"
  border : String := "none"
  deriving DecidableEq, Repr

/-- A thing that is printed. -/
inductive Event where
  | text (line : String)
  | table (t : Table)
  | panel (p : Panel)
  | notice (n : Notice)
  deriving DecidableEq, Repr

end ExpectedDamage.CommandLine
