import TableDdl.Command.Toolkit
import TableDdl.Platform.Cells

/-!
# Layout

How texts and tables are laid out on a terminal: lines are wrapped between words, tabulators are
filled with spaces, and a table has its title centred above it.
-/

namespace TableDdl.Layout

/-- The cells between two tabulator stops. -/
def tabStop : Nat := 8

/-- Some spaces. -/
def spaces (n : Nat) : Text :=
  List.replicate n (.scalar ' ')

/-- The control codes that are never shown: bell, backspace, vertical tabulator, form feed and
carriage return. -/
def isHiddenControl (p : CodePoint) : Bool :=
  p.value ∈ [7, 8, 11, 12, 13]

/-- The pieces of a line, each but the last one with spaces for the tabulator after it, given the
cells before them. -/
def fillTabs (before : Nat) : List Text → Text
  | [] => []
  | [piece] => piece
  | piece :: rest =>
    let piece := piece ++ spaces 1
    let reached := before + piece.cells
    let missing := (tabStop - reached % tabStop) % tabStop
    piece ++ spaces missing ++ fillTabs (reached + missing) rest

/-- A line with spaces for each tabulator. -/
def expandTabs (line : Text) : Text :=
  fillTabs 0 (line.split (.scalar '\t'))

/-! ## Wrapping -/

/-- The words of a line, each with the white space after it, and the first one also with that before
it. Each step takes at least one code point. -/
def wordsIn : Nat → Text → List Text
  | 0, _ => []
  | steps + 1, t =>
    let before := t.takeWhile CodePoint.isSpace
    let rest := t.drop before.length
    let body := rest.takeWhile (!CodePoint.isSpace ·)
    if body.isEmpty then []
    else
      let rest := rest.drop body.length
      let after := rest.takeWhile CodePoint.isSpace
      (before ++ body ++ after) :: wordsIn steps (rest.drop after.length)

/-- Cuts a word that is too long for a line into pieces, given the piece so far and its cells. -/
def chop (width : Nat) (piece : Text) (size : Nat) : List Text.Cluster → List Text
  | [] => [piece]
  | cluster :: rest =>
    if size + cluster.cells ≤ width then
      chop width (piece ++ cluster.text) (size + cluster.cells) rest
    else piece :: chop width cluster.text cluster.cells rest

/-- What becomes of a word that is too long for a line: it goes on in the next line, or it loses
what is too much. -/
inductive LongWord where
  | folded
  | shortened
  deriving DecidableEq, Repr

/-- The pieces of a word, which are on different lines. -/
def LongWord.pieces (longWord : LongWord) (width : Nat) (word : Text) : List Text :=
  match longWord with
  | .folded => if width < word.trimEnd.cells then chop width [] 0 word.clusters else [word]
  | .shortened => [word]

/-- Places words on lines of a width, given the line so far and the cells of its words. A word goes
to a new line if it does not fit. The white space after a word need not fit. -/
def placeWords (longWord : LongWord) (width : Nat) (line : Text) (used : Nat) :
    List Text → List Text
  | [] => [line]
  | word :: rest =>
    if used + word.trimEnd.cells ≤ width then
      placeWords longWord width (line ++ word) (used + word.cells) rest
    else
      let pieces := longWord.pieces width word
      let closed := (if line.isEmpty then [] else [line]) ++ pieces.dropLast
      let current := pieces.getLast?.getD []
      closed ++ placeWords longWord width current current.cells rest

/-- Drops white space at the end of a line as far as it goes beyond a width. -/
def cropEnd (width : Nat) (line : Text) : Text :=
  line.take (max width line.trimEnd.length)

/-- The lines that a line takes on a terminal of a width. -/
def wrap (longWord : LongWord) (width : Nat) (line : Text) : List Text :=
  let line := expandTabs line
  let words := wordsIn line.length line
  let lines := if words.isEmpty then [line] else placeWords longWord width [] 0 words
  lines.map (cropEnd width)

/-- The lines that a text takes on a terminal of a width. -/
def lines (longWord : LongWord) (width : Nat) (t : Text) : List Text :=
  (Text.split (.scalar '\n') (t.filter (!isHiddenControl ·))).flatMap (wrap longWord width)

/-- As many clusters as fit into a width, and a space for a cell that none of them fills. -/
def takeCells (width : Nat) : List Text.Cluster → Text
  | [] => []
  | cluster :: rest =>
    if cluster.cells ≤ width then cluster.text ++ takeCells (width - cluster.cells) rest
    else spaces width

/-- A line that is cut to a width. Marks that end up beside other characters than those of their
word can make it longer than its words are. -/
def cutTo (width : Nat) (line : Text) : Text :=
  if line.cells ≤ width then line else takeCells width line.clusters

/-- What a terminal of a width shows of a text. -/
def printed (width : Nat) (t : Text) : Text :=
  (lines .folded width t).flatMap fun line => cutTo width line ++ [.scalar '\n']

/-- A line in the middle of a width; the left side gets the smaller half. -/
def centre (width : Nat) (line : Text) : Text :=
  let line := cutTo width line.trimEnd
  let left := (width - line.cells) / 2
  spaces left ++ line ++ spaces (width - line.cells - left)

/-- A line that is cut to a width and ends in an ellipsis if it is. -/
def shorten (width : Nat) (line : Text) : Text :=
  if line.cells ≤ width then line else cutTo (width - 1) line ++ [.scalar '…']

/-! ## Tables -/

/-- A cell of a table: a text filled up to a width, with a space on both sides. In a width that has
no room for these the cell is cut. -/
def cell (width : Nat) (t : Text) : Text :=
  let t := cutTo (width - 2) t
  List.take width (spaces 1 ++ t ++ spaces (width - 2 - t.cells) ++ spaces 1)

/-- A rule of a table of two columns: its left end, its line, its crossing and its right end. -/
def rule (left fill cross right : Char) (leftWidth rightWidth : Nat) : Text :=
  .scalar left :: List.replicate leftWidth (.scalar fill) ++
    .scalar cross :: List.replicate rightWidth (.scalar fill) ++ [.scalar right]

/-- A line of a table of two columns between upright lines. -/
def rowLine (upright : Char) (leftWidth rightWidth : Nat) (left right : Text) : Text :=
  .scalar upright :: cell leftWidth left ++ .scalar upright :: cell rightWidth right ++
    [.scalar upright]

/-- The lines of a cell that may go over several. In a width that has no room for them there is an
empty one. -/
def wrapCell (width : Nat) (t : Text) : List Text :=
  if width ≤ 2 then [[]] else (lines .shortened (width - 2) t).map (shorten (width - 2))

/-- The lines of a cell under a heading. -/
def cellLines (heading : Heading) (width : Nat) (t : Text) : List Text :=
  if heading.noWrap then [shorten (width - 2) t] else wrapCell width t

/-- Lines filled up with empty ones below them. -/
def padBelow (height : Nat) (lines : List Text) : List Text :=
  lines ++ List.replicate (height - lines.length) []

/-- Lines filled up with empty ones above them. -/
def padAbove (height : Nat) (lines : List Text) : List Text :=
  List.replicate (height - lines.length) [] ++ lines

/-- A row of a table of two columns, whose cells begin on the same line. -/
def row (sheet : Sheet) (leftWidth rightWidth : Nat) (cells : Text × Text) : List Text :=
  let left := cellLines sheet.left leftWidth cells.1
  let right := cellLines sheet.right rightWidth cells.2
  let height := max left.length right.length
  List.zipWith (rowLine '│' leftWidth rightWidth) (padBelow height left) (padBelow height right)

/-- The row of the headings, which end on the same line. -/
def headingRow (sheet : Sheet) (leftWidth rightWidth : Nat) : List Text :=
  let left := cellLines sheet.left leftWidth sheet.left.text
  let right := cellLines sheet.right rightWidth sheet.right.text
  let height := max left.length right.length
  List.zipWith (rowLine '┃' leftWidth rightWidth) (padAbove height left) (padAbove height right)

/-- The width of a column of a table: that of its widest cell, with a space on both sides. -/
def columnWidth (cells : List Text) : Nat :=
  (cells.map Text.cells).foldl max 0 + 2

/-- The cells of a line of a table that are in none of its two columns. -/
def frameWidth : Nat := 3

/-- A table with a title centred over its width. Where the terminal is too narrow the right column
gets what the left one leaves. -/
def table (width : Nat) (title : Text) (sheet : Sheet) : Text :=
  let available := width - frameWidth
  let l := min (columnWidth (sheet.left.text :: sheet.rows.map Prod.fst)) available
  let r := min (columnWidth (sheet.right.text :: sheet.rows.map Prod.snd)) (available - l)
  let width := l + r + frameWidth
  let body :=
    (lines .folded width title).map (centre width) ++
      rule '┏' '━' '┳' '┓' l r :: headingRow sheet l r ++
      rule '┡' '━' '╇' '┩' l r :: sheet.rows.flatMap (row sheet l r) ++
      [rule '└' '─' '┴' '┘' l r]
  body.flatMap (· ++ [.scalar '\n'])

end TableDdl.Layout
