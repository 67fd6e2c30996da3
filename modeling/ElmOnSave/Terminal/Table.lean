import ElmOnSave.Terminal.Wrap

/-!
# Tables

A table has a heading for each column and cells in rows.  Each column is as wide as its widest
cell, with a blank at either side; if the table is then wider than the terminal, columns that wrap
become narrower, and if that is not enough all columns do.  A rule stands under the headings, and
blank lines stand above and below.
-/

namespace ElmOnSave.Terminal

/-- A column of a table. -/
structure Column where
  heading : String
  /-- Whether the cells stand at the right. -/
  right : Bool := false
  /-- Whether the cells may break into lines. -/
  wraps : Bool := false
deriving Repr, DecidableEq, Inhabited

/-- A table: its columns, the character of the rule and the rows. -/
structure Table where
  columns : List Column
  rule : Char
  rows : List (List StyledText)
deriving Repr, DecidableEq, Inhabited

/-! ## Widths -/

/-- The blanks of a cell, one at either side. -/
def cellPadding : Nat := 2

/-- Characters that end a line when the width of a cell is taken. -/
def endsMeasuredLine (c : Char) : Bool :=
  let n := c.toNat
  (10 ≤ n && n ≤ 13) || (28 ≤ n && n ≤ 30) || n == 0x85 || n == 0x2028 || n == 0x2029

/-- The cells of the widest line of a text. -/
def naturalWidth (t : StyledText) : Nat :=
  ((Text.splitAll endsMeasuredLine t.chars).map width).foldl max 0

/-- The width of a cell with its blanks where at most `limit` cells are there. -/
def cellWidth (limit : Nat) (t : StyledText) : Nat :=
  if limit ≤ cellPadding then limit else min (naturalWidth t + cellPadding) limit

/-- The width of a column, never less than one cell. -/
def columnWidth (limit : Nat) (cells : List StyledText) : Nat :=
  (cells.map (cellWidth limit)).foldl max 1

/-- Takes as much of the excess as there is from columns that wrap. -/
def narrowWrapping : Nat → List (Column × Nat) → List Nat
  | _, [] => []
  | excess, (c, w) :: cs =>
    if c.wraps then (w - excess) :: narrowWrapping (excess - w) cs
    else w :: narrowWrapping excess cs

/-- A quotient rounded to the nearest number, halves to the even one. -/
def roundedQuotient (n d : Nat) : Nat :=
  let q := n / d
  let r := n % d
  if 2 * r < d then q
  else if d < 2 * r then q + 1
  else if q % 2 = 0 then q else q + 1

/-- Takes an excess evenly from all columns, given the number of columns that are not empty. -/
def narrowEvenly : Nat → Nat → List Nat → List Nat
  | _, _, [] => []
  | excess, count, w :: ws =>
    if w = 0 ∨ count = 0 then w :: narrowEvenly excess count ws
    else
      let share := min w (roundedQuotient excess count)
      (w - share) :: narrowEvenly (excess - share) (count - 1) ws

/-- The width of columns together. -/
def totalWidth : List Nat → Nat
  | [] => 0
  | w :: ws => w + totalWidth ws

/-- Column widths that come to at most the limit, if the wanted ones do not. -/
def narrowed (limit : Nat) (columns : List (Column × Nat)) : List Nat :=
  let wanted := columns.map Prod.snd
  if totalWidth wanted ≤ limit then wanted
  else
    let ws := narrowWrapping (totalWidth wanted - limit) columns
    if totalWidth ws ≤ limit then ws
    else narrowEvenly (totalWidth ws - limit) (ws.countP (0 < ·)) ws

/-! ## Cells -/

/-- The style of the headings. -/
def headingStyle : Style := Style.ofAttribute .bold

/-- A line of a cell between two blanks.  Each segment is measured by itself: the text first, then
the whole line. -/
def cellLine (style : Style) (n : Nat) (segments : List Segment) : List Segment :=
  let blank := blankSegment Style.plain 1
  let line := blank :: fittedSegments Style.plain (n - cellPadding) segments ++ [blank]
  fittedSegments Style.plain n
    (fittedSegments style n (line.map fun s => { s with style := s.style.onTop style }))

/-- The lines of a cell, each as wide as the column; none if the column has no room for text. -/
def cellLines (style : Style) (c : Column) (n : Nat) (t : StyledText) :
    Except ColorFault (List (List Segment)) :=
  if n ≤ cellPadding then .ok []
  else
    let inner := n - cellPadding
    let lines := if c.wraps then t.wrapped inner else t.freeLines
    lines.mapM fun l => do
      let segments ← (if c.right then l.atRight inner else l.atLeft inner).segments
      return cellLine style n segments

/-- The cells of a row side by side, given as their widths and lines; the shorter ones are filled up
with blank lines. -/
def sideBySide (style : Style) (blocks : List (Nat × List (List Segment))) :
    List (List Segment) :=
  let height := (blocks.map fun b => b.2.length).foldl max 0
  let border := blankSegment Style.plain 1
  (List.range (max 1 height)).map fun i =>
    let pieces := blocks.map fun b =>
      (b.2[i]?).getD [blankSegment (if height = 0 then Style.plain else style) b.1]
    border :: Text.joinWith [border] pieces ++ [border]

/-- One printed row. -/
def rowLines (style : Style) (columns : List (Column × Nat)) (cells : List StyledText) :
    Except ColorFault (List (List Segment)) := do
  let blocks ← (columns.zip cells).mapM fun p => do
    return (p.1.2, ← cellLines style p.1.1 p.1.2 p.2)
  return sideBySide style blocks

namespace Table

/-- The cells of a column, the heading first. -/
def cellsOf (t : Table) (i : Nat) (c : Column) : List StyledText :=
  StyledText.unstyled c.heading :: t.rows.filterMap (·[i]?)

/-- The cells beside the columns: one at either edge and one between two columns. -/
def borderWidth (t : Table) : Nat :=
  t.columns.length + 1

/-- The columns with their widths in a terminal of the given width. -/
def sizedColumns (t : Table) (terminal : Nat) : List (Column × Nat) :=
  let limit := terminal - t.borderWidth
  let wanted := t.columns.zipIdx.map fun c => (c.1, columnWidth limit (t.cellsOf c.2 c.1))
  t.columns.zip (narrowed limit wanted)

/-- The lines of a table in a terminal of the given width. -/
def lines (t : Table) (terminal : Nat) : Except ColorFault (List (List Segment)) := do
  let columns := t.sizedColumns terminal
  let total := totalWidth (columns.map Prod.snd) + t.borderWidth
  let blank := [blankSegment Style.plain total]
  let rule := [⟨Style.plain, ' ' :: List.replicate (total - 2) t.rule ++ [' ']⟩]
  let headings ← rowLines headingStyle columns (t.columns.map fun c => .unstyled c.heading)
  let rows ← t.rows.mapM (rowLines Style.plain columns)
  return blank :: headings ++ [rule] ++ rows.flatten ++ [blank]

end Table

end ElmOnSave.Terminal
