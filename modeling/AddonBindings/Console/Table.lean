import AddonBindings.Console.Line
import AddonBindings.Console.Wrap

/-!
Contract: tables on the console.

Owns: the width of columns, the frame, the title and the rows of a table.

Does not own: what a table shows, which is in `AddonBindings.CommandLine.Listing`.

Every cell is markup.  The first cell that is not well formed, column by column, is
the fault.  A column is as wide as its widest text, for which tabulators take no columns;
a text that needs more once they are filled is wrapped.
-/

namespace AddonBindings.Console

/-- A column: its heading and its cells from top to bottom, all of them markup. -/
structure Column where
  heading : String
  cells : List String
deriving DecidableEq, Repr

/-- A table with its columns from left to right. -/
structure Table where
  title : String
  columns : List Column
deriving DecidableEq, Repr

def cellText (cell : String) : Except MarkupFault (List Char) :=
  (shown cell.toList).map withoutControls

/-- The columns of the console that the widest line of a text takes. -/
def widestLine (cs : List Char) : Nat :=
  (((Text.splitLines cs).map fun line => Text.lineWidth line).max?).getD 0

def cellLines (width : Nat) (cs : List Char) : List (List Char) :=
  (Text.splitAtMark '\n' (fillTabs 0 cs)).flatMap (wrapped width)

/-- A column as it is laid out: its width and the texts of its heading and cells. -/
structure LaidColumn where
  width : Nat
  heading : List Char
  cells : List (List Char)
deriving DecidableEq, Repr

/-- The layout of a column: as wide as its widest text. -/
def Column.lay (column : Column) : Except MarkupFault LaidColumn := do
  let heading ← cellText column.heading
  let cells ← column.cells.mapM cellText
  return ⟨(((heading :: cells).map widestLine).max?).getD 0, heading, cells⟩

/-- A line of a cell with a blank on each side, filled up to the width. -/
def padded (width : Nat) (line : List Char) : String :=
  let taken := Text.lineWidth line
  String.ofList (' ' :: (line ++ List.replicate (width - taken + 1) ' '))

def rowLines (bar : String) (widths : List Nat) (cells : List (List Char)) : List String :=
  let texts := List.zipWith cellLines widths cells
  let height := ((texts.map List.length).max?).getD 0
  (List.range height).map fun index =>
    let shownCells := List.zipWith (fun width lines => padded width (lines.getD index [])) widths texts
    bar ++ bar.intercalate shownCells ++ bar

def frameLine (left fill between right : String) (widths : List Nat) : String :=
  let fills := widths.map fun width => "".intercalate (List.replicate (width + 2) fill)
  left ++ between.intercalate fills ++ right

/-- The title in the middle of the width; what cannot be halved stands on the
right. -/
def centred (width : Nat) (title : List Char) : String :=
  let extra := width - Text.lineWidth title
  String.ofList
    (List.replicate (extra / 2) ' ' ++ title ++ List.replicate (extra - extra / 2) ' ')

def Table.lines (table : Table) : Except MarkupFault (List String) := do
  let columns ← table.columns.mapM Column.lay
  let title ← cellText table.title
  let widths := columns.map LaidColumn.width
  let height := ((columns.map fun column => column.cells.length).max?).getD 0
  let total := widths.foldl (fun total width => total + width + 3) 1
  let rows := (List.range height).flatMap fun index =>
    rowLines "│" widths (columns.map fun column => column.cells.getD index [])
  return [centred total title, frameLine "┏" "━" "┳" "┓" widths] ++
    rowLines "┃" widths (columns.map LaidColumn.heading) ++
    [frameLine "┡" "━" "╇" "┩" widths] ++ rows ++ [frameLine "└" "─" "┴" "┘" widths]

def Table.print (table : Table) : Except MarkupFault String :=
  table.lines.map fun lines => "".intercalate (lines.map (· ++ "\n"))

end AddonBindings.Console
