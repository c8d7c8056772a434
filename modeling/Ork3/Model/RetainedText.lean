import Ork3.Model.AgentIdentity

/-!
# Retained text

The rows a terminal keeps, as copy mode reads them: the logical lines that a search goes through,
and the atoms that the word motions move over.
-/

namespace Ork3.CopyMode

open Ork3.Library
open Ork3.Terminal (isWhitespace)

/-! ### Rows of the screen -/

inductive ActiveScreen
  | primary
  | alternate
deriving DecidableEq, Repr

inductive CellWide
  | narrow
  | wide
  | spacerTail
  | spacerHead
deriving DecidableEq, Repr

structure ScreenTextCell where
  wide : CellWide
  graphemes : List Nat
deriving DecidableEq, Repr

structure ScreenTextRow where
  cells : List ScreenTextCell
  softWrapped : Bool
  wrapContinuation : Bool
deriving DecidableEq, Repr

/-- A wide cell is followed by its tail, a head stands in the last column for a wide cell that did
not fit. -/
def spaced : List CellWide → Bool
  | [] => true
  | .narrow :: rest => spaced rest
  | .wide :: .spacerTail :: rest => spaced rest
  | [.spacerHead] => true
  | _ => false

/-- Narrow and wide cells with their spacers, none of which begins the row. -/
def ScreenTextRow.wellFormed (row : ScreenTextRow) : Bool :=
  spaced (row.cells.map (·.wide)) && row.cells.head?.any (·.wide ≠ .spacerHead)

/-- The screen of a terminal with its history. -/
structure RetainedScreen where
  cols : Nat
  rows : List ScreenTextRow
  activeScreen : ActiveScreen
  cols_lt : cols < 65536
  length_cells : ∀ row ∈ rows, row.cells.length = cols
  wellFormed : ∀ row ∈ rows, row.wellFormed = true

namespace RetainedScreen

def totalRows (screen : RetainedScreen) : Nat := screen.rows.length

/-- Rows are numbered by a `u32`; reading stops where the number of a row is none. -/
def screenTextRowsRange (screen : RetainedScreen) (startRow endRowExclusive : Nat) :
    List ScreenTextRow :=
  let startRow := min startRow screen.totalRows
  let endRowExclusive := max (min endRowExclusive screen.totalRows) startRow
  ((screen.rows.take (2 ^ 32)).drop startRow).take (endRowExclusive - startRow)

def screenTextRows (screen : RetainedScreen) : List ScreenTextRow :=
  screen.screenTextRowsRange 0 screen.totalRows

end RetainedScreen

/-! ### Text of a cell -/

structure TerminalTextPoint where
  row : Nat
  col : Nat
deriving DecidableEq, Repr

namespace TerminalTextPoint

/-- The derived order: by row, then by column. -/
def lt (p q : TerminalTextPoint) : Bool := p.row < q.row || (p.row = q.row && p.col < q.col)

end TerminalTextPoint

inductive TextClass
  | whitespace
  | separator
  | word
deriving DecidableEq, Repr

def kittyUnicodePlaceholder : Nat := 0x10EEEE

def terminalCellText (graphemes : List Nat) : List Char :=
  if graphemes.isEmpty ∨ graphemes.head? = some kittyUnicodePlaceholder then [' ']
  else graphemes.map fun codepoint => (charFromU32 codepoint).getD (Char.ofNat 0xFFFD)

def copyModeWordSeparators : List Char := "!\"#$%&'()*+,-./:;<=>?@[\\]^`\x7b|\x7d~".toList

def textClass (text : List Char) : TextClass :=
  match text with
  | [] => .whitespace
  | ch :: _ =>
    if isWhitespace ch then .whitespace
    else if ch.toNat < 128 && copyModeWordSeparators.contains ch then .separator
    else .word

/-! ### The buffer -/

structure TextAtom where
  point : Option TerminalTextPoint
  endCol : Nat
  textClass : TextClass
deriving DecidableEq, Repr

structure TextSpan where
  byteStart : Nat
  byteEnd : Nat
  start : TerminalTextPoint
  stop : TerminalTextPoint
deriving DecidableEq, Repr

structure LogicalTextLine where
  text : List Char
  spans : List TextSpan
deriving DecidableEq, Repr

namespace LogicalTextLine

def empty : LogicalTextLine := ⟨[], []⟩

def push (line : LogicalTextLine) (text : List Char) (start stop : TerminalTextPoint) :
    LogicalTextLine :=
  ⟨line.text ++ text,
    line.spans ++ [⟨byteLen line.text, byteLen (line.text ++ text), start, stop⟩]⟩

/-- The line without the whitespace at its end and the spans that begin in it. -/
def trimmed (line : LogicalTextLine) : LogicalTextLine :=
  let text := line.text.rdropWhile isWhitespace
  ⟨text, line.spans.rdropWhile fun span => byteLen text ≤ span.byteStart⟩

end LogicalTextLine

structure RetainedTextBuffer where
  cols : Nat
  lines : List LogicalTextLine
  atoms : List TextAtom
deriving DecidableEq, Repr

/-- The variables of `build`. -/
structure Building where
  lines : List LogicalTextLine
  line : LogicalTextLine
  atoms : List TextAtom

namespace Building

def empty : Building := ⟨[], .empty, []⟩

def lastClass (b : Building) : TextClass := (b.atoms.getLast?.map (·.textClass)).getD .whitespace

def addText (buildLines buildAtoms : Bool) (rowIdx col width : Nat) (text : List Char)
    (b : Building) : Building :=
  let start := ⟨rowIdx, col⟩
  let stop := ⟨rowIdx, min (col + (width - 1)) 65535⟩
  { b with
    line := if buildLines then b.line.push text start stop else b.line
    atoms := if buildAtoms then b.atoms ++ [⟨some start, stop.col, textClass text⟩] else b.atoms }

def addCell (buildLines buildAtoms : Bool) (rowIdx : Nat) (b : Building)
    (entry : ScreenTextCell × Nat) : Building :=
  let (cell, col) := entry
  match cell.wide with
  | .spacerTail => b
  | .spacerHead =>
    { b with
      atoms :=
        if buildAtoms then b.atoms ++ [⟨some ⟨rowIdx, col⟩, col, b.lastClass⟩] else b.atoms }
  | .wide => b.addText buildLines buildAtoms rowIdx col 2 (terminalCellText cell.graphemes)
  | .narrow => b.addText buildLines buildAtoms rowIdx col 1 (terminalCellText cell.graphemes)

/-- A line that is not soft-wrapped ends. -/
def endLine (buildLines buildAtoms : Bool) (b : Building) : Building where
  lines := if buildLines then b.lines ++ [b.line.trimmed] else b.lines
  line := if buildLines then .empty else b.line
  atoms := if buildAtoms then b.atoms ++ [⟨none, 0, .whitespace⟩] else b.atoms

/-- Columns are numbered by a `u16`. -/
def addRow (buildLines buildAtoms : Bool) (rowOffset : Nat) (b : Building)
    (entry : ScreenTextRow × Nat) : Building :=
  let (row, rowIdx) := entry
  let added := (row.cells.take (2 ^ 16)).zipIdx.foldl
    (addCell buildLines buildAtoms (min (rowOffset + rowIdx) (2 ^ 32 - 1))) b
  if row.softWrapped then added else added.endLine buildLines buildAtoms

end Building

namespace RetainedTextBuffer

def build (cols : Nat) (rows : List ScreenTextRow) (rowOffset : Nat)
    (buildLines buildAtoms : Bool) : RetainedTextBuffer :=
  let b := (rows.take (2 ^ 32)).zipIdx.foldl (Building.addRow buildLines buildAtoms rowOffset)
    .empty
  { cols := cols
    lines :=
      if buildLines && (!b.line.text.isEmpty || !b.line.spans.isEmpty) then b.lines ++ [b.line]
      else b.lines
    atoms := b.atoms }

def newSearch (cols : Nat) (rows : List ScreenTextRow) (rowOffset : Nat) : RetainedTextBuffer :=
  build cols rows rowOffset true false

def newWords (cols : Nat) (rows : List ScreenTextRow) (rowOffset : Nat) : RetainedTextBuffer :=
  build cols rows rowOffset false true

end RetainedTextBuffer

end Ork3.CopyMode
