import Mathlib.Data.List.Basic

/-!
# Cells of the text on screen

`app/actions.rs`. A click on a wrapped line is mapped back to the character of the text that is
displayed there. A text is the list of its characters, columns and rows are `u16` numbers, and the
width of a character is a parameter (`UnicodeWidthChar::width`, with 0 for none).
-/

namespace Ork3.App

/-- `saturating_add` on `u16`. -/
def addSaturating (a b : Nat) : Nat := min (a + b) 65535

structure VisibleTextCell where
  byteIndex : Nat
  ch : Char
  logicalCol : Nat
  screenRow : Nat
  screenCol : Nat
  deriving DecidableEq

/-- The variables of the loop over the characters. -/
structure CellCursor where
  screenRow : Nat
  screenCol : Nat
  logicalCol : Nat
  pendingWrap : Bool

namespace CellCursor
variable (paneWidth width : Nat) (cursor : CellCursor)

def newline : CellCursor :=
  ⟨addSaturating cursor.screenRow 1, 0, 0, false⟩

def wrap : CellCursor :=
  if cursor.pendingWrap then
    { cursor with
      screenRow := addSaturating cursor.screenRow 1
      screenCol := 0
      pendingWrap := false }
  else cursor

/-- The loop that takes whole pane widths off the column. -/
def wrapPast (row col : Nat) : Nat × Nat :=
  if 0 < paneWidth ∧ paneWidth < col then
    wrapPast (addSaturating row 1) (col - paneWidth)
  else (row, col)
termination_by col

def advance : CellCursor :=
  let moved := wrapPast paneWidth cursor.screenRow (addSaturating cursor.screenCol width)
  let full := decide (0 < width ∧ moved.2 = paneWidth)
  { screenRow := moved.1
    screenCol := if full then paneWidth - 1 else moved.2
    logicalCol := addSaturating cursor.logicalCol width
    pendingWrap := cursor.pendingWrap || full }

end CellCursor

section
variable (charWidth : Char → Nat) (paneWidth : Nat)

/-- The loop over `text.char_indices()`. -/
def visibleTextCellsFrom : List Char → Nat → CellCursor → List VisibleTextCell
  | [], _, _ => []
  | ch :: rest, byteIndex, cursor =>
    let next := byteIndex + ch.utf8Size
    if ch = '\n' then visibleTextCellsFrom rest next cursor.newline
    else
      let placed := cursor.wrap
      ⟨byteIndex, ch, placed.logicalCol, placed.screenRow, placed.screenCol⟩ ::
        visibleTextCellsFrom rest next (placed.advance paneWidth (charWidth ch))

def visibleTextCells (text : List Char) : List VisibleTextCell :=
  if paneWidth = 0 then []
  else visibleTextCellsFrom charWidth paneWidth text 0 ⟨0, 0, 0, false⟩

def VisibleTextCell.isAt (targetRow targetCol : Nat) (cell : VisibleTextCell) : Bool :=
  let width := charWidth cell.ch
  decide (cell.screenRow = targetRow) &&
    if width = 0 then decide (targetCol = cell.screenCol)
    else decide (cell.screenCol ≤ targetCol ∧ targetCol < addSaturating cell.screenCol width)

def logicalCellForVisibleCell (text : List Char) (targetRow targetCol : Nat) :
    Option VisibleTextCell :=
  (visibleTextCells charWidth paneWidth text).find? (VisibleTextCell.isAt charWidth targetRow targetCol)

end

/-! ### A terminal with automatic wrapping -/

/-- The row of the cursor and the columns used in it. A full row waits for the next character. -/
structure TerminalCursor where
  row : Nat
  used : Nat

/-- A character on the screen. -/
structure PrintedChar where
  byteIndex : Nat
  ch : Char
  row : Nat
  col : Nat
  deriving DecidableEq

section
variable (charWidth : Char → Nat) (paneWidth : Nat)

/-- Where a character is printed: in the next row when the rest of this one is too short. -/
def TerminalCursor.place (width : Nat) (cursor : TerminalCursor) : TerminalCursor :=
  if cursor.used + width ≤ paneWidth then cursor else ⟨cursor.row + 1, 0⟩

def printedFrom : List Char → Nat → TerminalCursor → List PrintedChar
  | [], _, _ => []
  | ch :: rest, byteIndex, cursor =>
    let next := byteIndex + ch.utf8Size
    if ch = '\n' then printedFrom rest next ⟨cursor.row + 1, 0⟩
    else
      let placed := cursor.place paneWidth (charWidth ch)
      ⟨byteIndex, ch, placed.row, placed.used⟩ ::
        printedFrom rest next ⟨placed.row, placed.used + charWidth ch⟩

def printed (text : List Char) : List PrintedChar :=
  printedFrom charWidth paneWidth text 0 ⟨0, 0⟩

/-- The character is displayed in the cell. -/
def PrintedChar.Covers (row col : Nat) (shown : PrintedChar) : Prop :=
  shown.row = row ∧ shown.col ≤ col ∧ col < shown.col + charWidth shown.ch

/-- No wide character meets the cursor in the last column, and every row that is printed in has a
`u16` number. -/
def PrintsEvenlyFrom : List Char → TerminalCursor → Prop
  | [], _ => True
  | ch :: rest, cursor =>
    if ch = '\n' then PrintsEvenlyFrom rest ⟨cursor.row + 1, 0⟩
    else
      let placed := cursor.place paneWidth (charWidth ch)
      (charWidth ch = 2 → cursor.used + 1 ≠ paneWidth) ∧ placed.row ≤ 65535 ∧
        PrintsEvenlyFrom rest ⟨placed.row, placed.used + charWidth ch⟩

def PrintsEvenly (text : List Char) : Prop :=
  PrintsEvenlyFrom charWidth paneWidth text ⟨0, 0⟩

end

end Ork3.App
