import CompilerRunner.Markup
import CompilerRunner.Settings
import CompilerRunner.Text.Tab
import CompilerRunner.Text.Wrap
import CompilerRunner.Value.Digits
import CompilerRunner.World

/-!
# Listing

The table of targets: a row for each in the order of names, with its source and its output as they
are configured.  Cells are texts with markup.  Columns are as wide as their widest text, but all of
them together no wider than the terminal: the widest columns give way (`shrink`), and what does not
fit any more is wrapped, or cropped with an ellipsis.
-/

namespace CompilerRunner.Listing

/-- The corners and rules of a line between rows. -/
structure Rule where
  left : Char
  fill : Char
  crossing : Char
  right : Char

/-- The rule above the heading. -/
def top : Rule := ⟨'┏', '━', '┳', '┓'⟩

/-- The rule below the heading. -/
def middle : Rule := ⟨'┡', '━', '╇', '┩'⟩

/-- The rule below the last row. -/
def bottom : Rule := ⟨'└', '─', '┴', '┘'⟩

/-- What separates the cells of the heading. -/
def headingBar : Char := '┃'

/-- What separates the cells of other rows. -/
def bar : Char := '│'

/-- What stands for the rest of a line that is cropped. -/
def ellipsis : Char := '…'

/-- The names of the columns. -/
def heading : List String := ["Target", "Source", "Output"]

/-- What is said when there is no target. -/
def nothingToList : String := "No target defined!"

/-- The cells of the lines between columns and at the edges. -/
def frameWidth : Nat := heading.length + 1

/-- The cells of a column that are blank on both sides of its texts. -/
def marginWidth : Nat := 2

/-! ### The widths of columns -/

/-- A line ends with the code point, where the width of a text is measured. -/
def endsLine (c : Char) : Bool :=
  let n := c.toNat
  (10 ≤ n && n ≤ 13) || (0x1C ≤ n && n ≤ 0x1E) || n == 0x85 || n == 0x2028 || n == 0x2029

/-- The cells of the widest line of a text.  A tab takes none. -/
def breadth (shown : String) : Nat :=
  let lines := Text.split '\n' (shown.map fun c => if endsLine c then '\n' else c)
  (lines.map Text.width).foldr max 0

/-- The widths of the columns that hold all rows. -/
def naturalWidths (rows : List (List String)) : List Nat :=
  rows.foldr (fun row widths => List.zipWith max (row.map breadth) widths) (heading.map breadth)
    |>.map (· + marginWidth)

/-- The part of each of so many that share a number, rounded, and to the even of two that are as
near. -/
def share (number sharers : Nat) : Nat :=
  let part := number / sharers
  let rest := 2 * (number % sharers)
  if sharers < rest ∨ (sharers = rest ∧ part % 2 = 1) then part + 1 else part

/-- The columns of the greatest width give in turn their share of what is left over, but no more
than `most`. -/
def give (widest most : Nat) : (left : Nat) → List Nat → List Nat
  | _, [] => []
  | left, width :: widths =>
    if width = widest then
      let part := min most (share left (widths.count widest + 1))
      (width - part) :: give widest most (left - part) widths
    else width :: give widest most left widths

/-- The widest columns give away what is too much, at most until they are as wide as the next. -/
def shrinkOnce (limit : Nat) (widths : List Nat) : List Nat :=
  let excess := widths.foldr (· + ·) 0 - limit
  let widest := widths.foldr max 0
  let next := (widths.filter (· != widest)).foldr max 0
  give widest (min excess (widest - next)) excess widths

/-- The widths of columns that are to fit into so many cells.  There are no more rounds than there
are widths. -/
def shrink (limit : Nat) (widths : List Nat) : List Nat :=
  widths.foldl (fun ws _ => shrinkOnce limit ws) widths

/-- The widths of the columns with their margins, on a terminal of that width. -/
def columnWidths (width : Nat) (rows : List (List String)) : List Nat :=
  let limit := width - frameWidth
  shrink limit ((naturalWidths rows).map (min limit))

/-! ### The lines of the table -/

/-- A line with blanks at its end that make it as wide. -/
def padded (width : Nat) (line : List Nat) : List Nat :=
  line ++ List.replicate (width - Text.lineWidth line) Text.blank

/-- A part of a line as it is shown in so many cells. -/
def fitted (limit : Nat) (part : List Nat) : List Nat :=
  let part := Text.dropSurplus limit part
  if Text.lineWidth part ≤ limit then part else Text.crop (limit - 1) part ++ [ellipsis.toNat]

/-- The lines that show a line of a text in so many cells.  A word that is too wide is not cut but
cropped. -/
def fittedLines (limit : Nat) (line : List Nat) : List (List Nat) :=
  (Text.wrap limit (fun word => [word]) line).map (fitted limit)

/-- The lines that show a text in a column, none if the column has no room for any. -/
def shownIn (width : Nat) (shown : String) : List (List Nat) :=
  if width ≤ marginWidth then []
  else (Text.split '\n' shown).flatMap fun line =>
    fittedLines (width - marginWidth) (Text.codes (Text.untabbed line))

/-- A line of a column between its margins.  Joined characters at its end may swallow a blank, so
that it takes a second look to fill the column. -/
def columnLine (width : Nat) : Option (List Nat) → List Nat
  | none => List.replicate width Text.blank
  | some line =>
    let limit := width - marginWidth
    Text.blank :: padded limit (padded limit line) ++ [Text.blank]

/-- The lines of a row. -/
def rowLines (separator : Char) (widths : List Nat) (row : List String) : List (List Nat) :=
  let cells := List.zipWith shownIn widths row
  let height := max 1 ((cells.map List.length).foldr max 0)
  (List.range height).map fun n =>
    separator.toNat ::
      List.intercalate [separator.toNat]
        (List.zipWith (fun width cell => columnLine width cell[n]?) widths cells) ++
      [separator.toNat]

/-- A rule over columns of these widths. -/
def Rule.line (r : Rule) (widths : List Nat) : List Nat :=
  r.left.toNat ::
    List.intercalate [r.crossing.toNat] (widths.map fun w => List.replicate w r.fill.toNat) ++
    [r.right.toNat]

/-- The lines of the table with the given rows on a terminal of that width, which cuts a frame that
it does not hold. -/
def table (width : Nat) (rows : List (List String)) : List String :=
  let widths := columnWidths width rows
  let lines := [top.line widths] ++ rowLines headingBar widths heading ++ [middle.line widths] ++
    rows.flatMap (rowLines bar widths) ++ [bottom.line widths]
  if width = 0 then []
  else lines.map fun line =>
    Text.ofCodes (if frameWidth ≤ width then line else line.take width)

/-- The lines of what is said when there is no target. -/
def noTable (width : Nat) : List String :=
  if width = 0 then []
  else (Text.wrap width (Text.chop width) (Text.codes nothingToList)).map fun line =>
    Text.ofCodes (Text.dropSurplus width line)

/-! ### The list of targets -/

/-- What a text with markup shows. -/
def cell (s : String) : Except Failure String :=
  match Markup.plain s with
  | .ok shown => .ok shown
  | .error (.colour _) => .error (.crash .invalidValue)
  | .error _ => .error (.crash .markup)

/-- What is configured for the target, as text; nothing if it is not configured.  A number of too
many digits has no text. -/
def configured (s : Settings) (field name : String) : Except Failure String :=
  match ((s.targets.get? name).getD []).get? field with
  | none => .ok ""
  | some v => v.shown

/-- The rows of columns of cells. -/
def rows (names sources outputs : List String) : List (List String) :=
  (names.zip (sources.zip outputs)).map fun r => [r.1, r.2.1, r.2.2]

/-- The least width of a terminal on which the texts of cells are looked at at all. -/
def leastWidth : Nat := frameWidth + marginWidth + 1

/-- The lines of the list of targets.  One column is laid out after the other. -/
def lines (width : Nat) (s : Settings) : Except Failure (List String) :=
  if s.targets.isEmpty then .ok (noTable width)
  else do
    let sources ← s.targetNames.mapM (configured s "source")
    let outputs ← s.targetNames.mapM (configured s "output")
    if width < leastWidth then return table width (s.targetNames.map fun _ => heading)
    else
      let names ← s.targetNames.mapM cell
      let sources ← sources.mapM cell
      let outputs ← outputs.mapM cell
      return table width (rows names sources outputs)

end CompilerRunner.Listing
