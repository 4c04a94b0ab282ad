import ExpectedDamage.CommandLine.Display
/-!
# Events as plain text

The text of events for an output that knows no colours: marks are dropped, and the
cells of a table are filled up to the width of their columns.
-/

namespace ExpectedDamage.CommandLine

def isStyleLetter (c : Char) : Bool := c.isLower || c = ' ' || c = '_' || c = '/'

/-- The rest of a text without its marks, after the beginning of what may be a mark: a
bracket and some letters. -/
def withoutMarks (begun : Option (List Char)) : List Char → List Char
  | [] => begun.getD []
  | c :: rest =>
    let letters := (begun.getD []).drop 1
    if begun.isSome && isStyleLetter c then withoutMarks (begun.map (· ++ [c])) rest
    else if c = ']' && !letters.isEmpty then withoutMarks none rest
    else if c = '[' then begun.getD [] ++ withoutMarks (some [c]) rest
    else begun.getD [] ++ c :: withoutMarks none rest

/-- A line without its marks. -/
def plainLine (line : String) : String := String.ofList (withoutMarks none line.toList)

/-- A cell, filled up to a width. -/
def Justify.fill (j : Justify) (width : Nat) (cell : String) : String :=
  match j with
  | left => padRight width cell
  | right => padLeft width cell
  | center => padRight width (padLeft (cell.length + (width - cell.length) / 2) cell)

/-- The cells of a row, each under the heading of its column. -/
def filledRow (columns : List (Column × Nat)) (cells : List String) : String :=
  "  ".intercalate ((columns.zip cells).map fun ((c, width), cell) => c.justify.fill width cell)

namespace Table

/-- The headings and the cells without their marks. -/
def plainRows (t : Table) : List (List String) :=
  t.columns.map Column.header :: t.rows.map fun r => r.cells.map plainLine

def width (t : Table) (column : Nat) : Nat :=
  t.plainRows.foldl (fun widest row => max widest (row[column]?.getD "").length) 0

def widths (t : Table) : List (Column × Nat) :=
  t.columns.zipIdx.map fun (c, i) => (c, t.width i)

def plainLines (t : Table) : List String :=
  t.title :: t.plainRows.map (filledRow t.widths) ++ t.caption.toList

end Table

def Event.plainLines : Event → List String
  | text line => [plainLine line]
  | table t => t.plainLines
  | panel p => p.title.toList ++ [plainLine p.text]
  | notice n => [n.level.name ++ " " ++ n.message]

end ExpectedDamage.CommandLine
