import Ork3.Library.Runs
import Ork3.Model.RetainedText

/-!
# Word motions

The motions of copy mode from word to word, on a buffer and on windows of the screen that grow
until the motion is decided.
-/

namespace Ork3.CopyMode

open Ork3.Library

inductive TerminalWordMotion
  | nextStart
  | previousStart
  | nextEnd
deriving DecidableEq, Repr

/-- The atom shows the cell in column `col` of row `row`. -/
def TextAtom.shows (atom : TextAtom) (row col : Nat) : Bool :=
  atom.point.any fun point => point.row = row && point.col ≤ col && col ≤ atom.endCol

def TextAtom.isOf (textClass : TextClass) (atom : TextAtom) : Bool := atom.textClass = textClass

namespace RetainedTextBuffer

def nextPoint (atoms : List TextAtom) (index : Nat) : Option TerminalTextPoint :=
  (atoms.drop index).findSome? (·.point)

def previousPoint (atoms : List TextAtom) (index : Nat) : Option TerminalTextPoint :=
  atoms[index]?.bind fun atom =>
    match atom.point with
    | some point => some point
    | none =>
      match index with
      | 0 => none
      | index + 1 => previousPoint atoms index

def nextWordStart (atoms : List TextAtom) (current : Nat) : Option TerminalTextPoint :=
  atoms[current]?.bind fun atom =>
    let next :=
      if atom.textClass ≠ .whitespace then runEnd (TextAtom.isOf atom.textClass) atoms (current + 1)
      else current + 1
    nextPoint atoms (runEnd (TextAtom.isOf .whitespace) atoms next)

def previousWordStart (atoms : List TextAtom) (current : Nat) : Option TerminalTextPoint :=
  match current with
  | 0 => none
  | previous + 1 =>
    (skipBack (TextAtom.isOf .whitespace) atoms previous).bind fun previous =>
      atoms[previous]?.bind fun atom =>
        previousPoint atoms (runStart (TextAtom.isOf atom.textClass) atoms previous)

/-- The second loop looks one atom ahead. -/
def nextWordEnd (atoms : List TextAtom) (current : Nat) : Option TerminalTextPoint :=
  let next := runEnd (TextAtom.isOf .whitespace) atoms (current + 1)
  atoms[next]?.bind fun atom =>
    previousPoint atoms (runEnd (TextAtom.isOf atom.textClass) atoms (next + 1) - 1)

def motionFrom (motion : TerminalWordMotion) (atoms : List TextAtom) (current : Nat) :
    Option TerminalTextPoint :=
  match motion with
  | .nextStart => nextWordStart atoms current
  | .previousStart => previousWordStart atoms current
  | .nextEnd => nextWordEnd atoms current

def wordMotion (buffer : RetainedTextBuffer) (row col : Nat) (motion : TerminalWordMotion) :
    Option TerminalTextPoint :=
  (buffer.atoms.findIdx? (·.shows row col)).bind (motionFrom motion buffer.atoms)

def pointIsFinalAtom (buffer : RetainedTextBuffer) (point : TerminalTextPoint) : Bool :=
  (buffer.atoms.reverse.find? (·.point.isSome)).any fun atom =>
    atom.point.any fun start => start.row = point.row && atom.endCol = point.col

end RetainedTextBuffer

namespace RetainedScreen

/-- The rows of a window of `windowRows` rows from, or up to, a row. -/
def windowRange (screen : RetainedScreen) (row windowRows : Nat) (motion : TerminalWordMotion) :
    Nat × Nat :=
  match motion with
  | .previousStart => (row - (windowRows - 1), row + 1)
  | .nextStart | .nextEnd => (row, min (row + windowRows) screen.totalRows)

def windowBuffer (screen : RetainedScreen) (range : Nat × Nat) : RetainedTextBuffer :=
  .newWords screen.cols (screen.screenTextRowsRange range.1 range.2) range.1

def reachedEdge (screen : RetainedScreen) (range : Nat × Nat) (motion : TerminalWordMotion) :
    Bool :=
  match motion with
  | .previousStart => range.1 = 0
  | .nextStart | .nextEnd => range.2 = screen.totalRows

/-- One pass of the loop: the target it returns, or none when the window is to grow. -/
def windowPass (screen : RetainedScreen) (row col windowRows : Nat)
    (motion : TerminalWordMotion) : Option (Option TerminalTextPoint) :=
  let range := screen.windowRange row windowRows motion
  let rows := screen.screenTextRowsRange range.1 range.2
  let startsInContinuation := rows.head?.any fun row => row.wrapContinuation && 0 < range.1
  let endsInContinuation :=
    rows.getLast?.any fun row => row.softWrapped && range.2 < screen.totalRows
  let buffer := screen.windowBuffer range
  let target := buffer.wordMotion row col motion
  let needsMoreHistory := motion = .previousStart &&
    target.any fun target => startsInContinuation && target.row = range.1
  let needsMoreFuture := motion = .nextEnd && endsInContinuation &&
    target.any fun target => buffer.pointIsFinalAtom target
  if target.isSome && !needsMoreHistory && !needsMoreFuture then some target
  else if screen.reachedEdge range motion then some target
  else none

/-- The loop of `word_motion_target` for at most `fuel` passes. -/
def growWindow (screen : RetainedScreen) (row col : Nat) (motion : TerminalWordMotion) :
    Nat → Nat → Option (Option TerminalTextPoint)
  | 0, _ => none
  | fuel + 1, windowRows =>
    match screen.windowPass row col windowRows motion with
    | some target => some target
    | none => growWindow screen row col motion fuel (min (windowRows * 2) screen.totalRows)

/-- `word_motion_target` with at most `fuel` passes of its loop; the outer `none` says that they
do not suffice. -/
def wordMotionTarget (fuel : Nat) (screen : RetainedScreen) (row : UInt32) (col : UInt16)
    (motion : TerminalWordMotion) : Option (Option TerminalTextPoint) :=
  if screen.totalRows ≤ row.toNat then some none
  else screen.growWindow row.toNat col.toNat motion fuel 64

/-- The buffer of all rows. -/
def wholeBuffer (screen : RetainedScreen) : RetainedTextBuffer :=
  .newWords screen.cols screen.screenTextRows 0

end RetainedScreen

end Ork3.CopyMode
