/-
EndpointCatalog.Console.Table — tables in boxes.

* `widths` are the widths of the columns: as wide as their widest cell, and
  narrower where a table would not fit. Columns that wrap give way first,
  the widest of them before all others.
* `draw` is the table as text. The heading stands in heavy lines. Columns that
  do not wrap may still be too wide for the screen: then the table is cut off
  at its edge.
-/
import EndpointCatalog.Console.Wrap
import EndpointCatalog.Number.Binary64

namespace EndpointCatalog.Console

/-- A column of a table. -/
structure Column where
  heading : Text
  /-- Whether the words of its cells may stand in several lines. -/
  wraps : Bool
deriving DecidableEq, Repr

/-- A table: its columns, and its rows of cells. -/
structure Table where
  columns : List Column
  rows : List (List Text)
deriving DecidableEq, Repr

/-! ## Widths of columns -/

/-- The blanks on both sides of a cell. -/
def padding : Nat := 2

/-- The width that a cell asks for, blanks included, if no more than a limit is to be had. -/
def cellWidth (limit : Nat) (t : Text) : Nat :=
  if limit ≤ padding then limit else min (widest t + padding) limit

/-- The width that some cells of a column ask for. -/
def columnWidth (limit : Nat) (cells : List Text) : Nat :=
  (cells.map (cellWidth limit)).foldl max 0

/-- A quotient rounded to the nearest number, a tie to the even one. -/
def share (total shares : Nat) : Nat := roundHalfEven total shares

/-- Takes a total away from some widths, in equal shares of those that have a part in it; none
gives more than its most. Each item is a width, its most, and whether it has a part. -/
def reduceFrom (left shares : Nat) : List (Nat × Nat × Bool) → List Nat
  | [] => []
  | (width, most, takesPart) :: rest =>
    if takesPart then
      let taken := min most (share left shares)
      (width - taken) :: reduceFrom (left - taken) (shares - 1) rest
    else width :: reduceFrom left shares rest

/-- Takes a total away from some widths. -/
def reduce (total : Nat) (items : List (Nat × Nat × Bool)) : List Nat :=
  let items := items.map fun (width, most, takesPart) => (width, most, takesPart && most ≠ 0)
  reduceFrom total (items.filter fun item => item.2.2).length items

/-- The sum of some widths. -/
def totalOf (widths : List Nat) : Nat := widths.foldr (fun width total => width + total) 0

/-- One step towards a limit: the widest columns that wrap become as narrow as the next. `none` if
no column that wraps has any width. -/
def narrowOnce? (limit : Nat) (widths : List (Nat × Bool)) : Option (List (Nat × Bool)) :=
  let excess := totalOf (widths.map Prod.fst) - limit
  let wrapping := (widths.filter Prod.snd).map Prod.fst
  let first := wrapping.foldl max 0
  let second := (wrapping.filter (· ≠ first)).foldl max 0
  if first = 0 then none
  else
    let most := min excess (first - second)
    let items := widths.map fun (width, wraps) => (width, most, wraps && width = first)
    some ((reduce excess items).zip (widths.map Prod.snd))

/-- Makes columns that wrap narrower, until all columns fit or these have no width left. Each step
takes away some width, so as many steps as there are cells are enough. -/
def narrow (limit : Nat) : Nat → List (Nat × Bool) → List Nat
  | 0, widths => widths.map Prod.fst
  | steps + 1, widths =>
    if totalOf (widths.map Prod.fst) ≤ limit then widths.map Prod.fst
    else
      match narrowOnce? limit widths with
      | some narrowed => narrow limit steps narrowed
      | none => widths.map Prod.fst

namespace Table

variable (t : Table)

/-- The cells of each column, the heading first. -/
def cells : List (List Text) :=
  t.columns.zipIdx.map fun (column, i) => column.heading :: t.rows.map fun row => row.getD i []

/-- The width of the lines between and around the columns. -/
def lineWidth : Nat := t.columns.length + 1

/-- The widths of the columns in a table that is no wider than a limit. -/
def widths (limit : Nat) : List Nat :=
  let room := limit - t.lineWidth
  let wanted := t.cells.map fun cells => max 1 (columnWidth room cells)
  if totalOf wanted ≤ room then wanted
  else
    let narrowed := narrow room (totalOf wanted + 1) (wanted.zip (t.columns.map Column.wraps))
    let reduced :=
      if totalOf narrowed ≤ room then narrowed
      else reduce (totalOf narrowed - room) (narrowed.map fun width => (width, width, true))
    (reduced.zip t.cells).map fun (width, cells) => columnWidth width cells

/-! ## Lines of the box -/

/-- A line of the box: its left end, what is repeated, what stands between columns, and its right
end. -/
structure Rule where
  left : Char
  across : Char
  between : Char
  right : Char

/-- A line of the box across columns. -/
def Rule.draw (r : Rule) (widths : List Nat) : Text :=
  Text.ofChars
    (r.left :: joinWith [r.between] (widths.map fun n => List.replicate n r.across) ++ [r.right])

/-- The line above the heading. -/
def topRule : Rule := ⟨'┏', '━', '┳', '┓'⟩

/-- The line between the heading and the rows. -/
def headingRule : Rule := ⟨'┡', '━', '╇', '┩'⟩

/-- The line below the rows. -/
def bottomRule : Rule := ⟨'└', '─', '┴', '┘'⟩

/-! ## Rows -/

/-- The lines of a cell with the blanks on its sides. -/
def paddedLines (width : Nat) (wraps : Bool) (cell : Text) : List Text :=
  (cellLines (width - padding) wraps cell).map fun line => Text.blanks 1 ++ line ++ Text.blanks 1

/-- The lines of a row of cells, with a line of the box between two cells. -/
def drawRow (bar : Char) (columns : List (Nat × Bool)) (row : List Text) : List Text :=
  let cells := (columns.zip row).map fun ((width, wraps), cell) =>
    (width, paddedLines width wraps cell)
  let height := (cells.map fun cell => cell.2.length).foldl max 1
  (List.range height).map fun i =>
    let line := cells.map fun (width, lines) => lines.getD i (Text.blanks width)
    CodePoint.ofChar bar :: joinWith [CodePoint.ofChar bar] line ++ [CodePoint.ofChar bar]

/-- The lines of the table. -/
def lines (limit : Nat) : List Text :=
  let widths := t.widths limit
  let columns := widths.zip (t.columns.map Column.wraps)
  [topRule.draw widths] ++ drawRow '┃' columns (t.columns.map Column.heading) ++
    [headingRule.draw widths] ++ t.rows.flatMap (drawRow '│' columns) ++ [bottomRule.draw widths]

/-- The table as text. Lines that are wider than a limit are cut off there. -/
def draw (limit : Nat) : Text :=
  (t.lines limit).flatMap fun (line : Text) =>
    (if line.width ≤ limit then line else line.cutTo limit) ++ [CodePoint.ofChar '\n']

end Table

end EndpointCatalog.Console
