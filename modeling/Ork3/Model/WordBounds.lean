import Ork3.Library.Text
import Ork3.Model.AgentIdentity
import Ork3.Model.VisibleCells

/-!
# Words and URLs under a click

`app/actions.rs`. The characters of a row become cells with their first and last columns; a click
selects a URL, a quoted path or a run of characters without separators. Columns are `u16` numbers
and the width of a character is a parameter (`UnicodeWidthChar::width`, with 0 for none).
-/

namespace Ork3.App

open Ork3.Library

structure TextCell where
  ch : Char
  startCol : Nat
  endCol : Nat
  deriving DecidableEq

/-- Both ends belong to the span. -/
structure CellSpan where
  start : Nat
  stop : Nat
  deriving DecidableEq

def CellSpan.contains (span : CellSpan) (idx : Nat) : Bool :=
  decide (span.start ≤ idx) && decide (idx ≤ span.stop)

/-- The columns of the first and the last cell. -/
def CellSpan.columns (span : CellSpan) (cells : List TextCell) : Option (Nat × Nat) := do
  let first ← cells[span.start]?
  let last ← cells[span.stop]?
  return (first.startCol, last.endCol)

section
variable (charWidth : Char → Nat)

def textCellsFrom : Nat → List Char → List TextCell
  | _, [] => []
  | nextCol, ch :: rest =>
    let width := charWidth ch
    let startCol := if width = 0 then nextCol - 1 else nextCol
    let nextCol := if 0 < width then addSaturating nextCol width else nextCol
    ⟨ch, startCol, nextCol - 1⟩ :: textCellsFrom nextCol rest

def textCells (row : List Char) : List TextCell := textCellsFrom charWidth 0 row

end

section
variable (cells : List TextCell)

def cellIndexAtColumn (col : Nat) : Option Nat :=
  cells.findIdx? fun cell => decide (cell.startCol ≤ col) && decide (col ≤ cell.endCol)

/-- The character of a cell has a property. -/
def cellIs (p : Char → Bool) (idx : Nat) : Bool := cells[idx]?.any fun cell => p cell.ch

def startsWithChars (start : Nat) (text : List Char) : Bool :=
  text.isPrefixOf ((cells.drop start).map TextCell.ch)

/-- A span grows to the right while the next character does not stop it. -/
def spanEnd (stops : Char → Bool) (stop : Nat) : Nat :=
  if stop + 1 < cells.length ∧ cellIs cells stops (stop + 1) = false then spanEnd stops (stop + 1)
  else stop
termination_by cells.length - stop

lemma le_spanEnd (stops : Char → Bool) (stop : Nat) : stop ≤ spanEnd cells stops stop := by
  fun_induction spanEnd cells stops stop with
  | case1 stop h ih => omega
  | case2 stop h => exact le_rfl

/-- The end of a span moves left over the cells that are trimmed. -/
def trimEnd (trims : Nat → Bool) (start : Nat) : Nat → Option Nat
  | 0 => if start ≤ 0 ∧ trims 0 = true then none else some 0
  | stop + 1 =>
    if start ≤ stop + 1 ∧ trims (stop + 1) = true then trimEnd trims start stop
    else some (stop + 1)

/-- What is left of a span, unless nothing is. -/
def trimmedSpan (trims : Nat → Bool) (start stop : Nat) : Option CellSpan :=
  (trimEnd trims start stop).bind fun stop => if start ≤ stop then some ⟨start, stop⟩ else none

/-! ### URLs -/

def httpScheme : List Char := "http://".toList

def httpsScheme : List Char := "https://".toList

def trailingUrlCloserIsBalanced (start stop : Nat) (opener closer : Char) : Bool :=
  let inside := (cells.take stop).drop start
  let balance : Int := inside.foldl (fun balance cell =>
    if cell.ch = opener then balance + 1
    else if cell.ch = closer then balance - 1
    else balance) 0
  decide (0 < balance)

def shouldTrimTrailingUrlCell (start stop : Nat) : Bool :=
  match cells[stop]?.map TextCell.ch with
  | none => false
  | some ch =>
    if ch ∈ ['"', '\'', '\x60', '.', ',', ';', ':', '!', '?'] then true
    else if ch = ')' then !trailingUrlCloserIsBalanced cells start stop '(' ')'
    else if ch = ']' then !trailingUrlCloserIsBalanced cells start stop '[' ']'
    else if ch = '\x7d' then !trailingUrlCloserIsBalanced cells start stop '\x7b' '\x7d'
    else false

def trimUrlEdges (span : CellSpan) : Option CellSpan :=
  trimmedSpan (shouldTrimTrailingUrlCell cells span.start) span.start span.stop

def startsUrl (start : Nat) : Bool :=
  startsWithChars cells start httpScheme || startsWithChars cells start httpsScheme

def urlSpanFrom (clickedIdx start : Nat) : Option CellSpan :=
  if start < cells.length then
    if startsUrl cells start then
      let stop := spanEnd cells Terminal.isWhitespace start
      if start ≤ clickedIdx ∧ clickedIdx ≤ stop then
        (trimUrlEdges cells ⟨start, stop⟩).bind fun span =>
          if span.contains clickedIdx then some span else none
      else urlSpanFrom clickedIdx (stop + 1)
    else urlSpanFrom clickedIdx (start + 1)
  else none
termination_by cells.length - start
decreasing_by
  · have := le_spanEnd cells Terminal.isWhitespace start
    omega
  · omega

def urlSpanAtColumn (clickedIdx : Nat) : Option CellSpan := urlSpanFrom cells clickedIdx 0

def urlSpansFrom (start : Nat) : List CellSpan :=
  if start < cells.length then
    if startsUrl cells start then
      let stop := spanEnd cells Terminal.isWhitespace start
      (trimUrlEdges cells ⟨start, stop⟩).toList ++ urlSpansFrom (stop + 1)
    else urlSpansFrom (start + 1)
  else []
termination_by cells.length - start
decreasing_by
  · have := le_spanEnd cells Terminal.isWhitespace start
    omega
  · omega

def urlSpans : List CellSpan := urlSpansFrom cells 0

/-! ### Quoted paths -/

/-- The backslashes right before a cell. -/
def slashesBefore : Nat → Nat
  | 0 => 0
  | cursor + 1 => if cellIs cells (· = '\\') cursor then slashesBefore cursor + 1 else 0

def isEscaped (idx : Nat) : Bool := slashesBefore cells idx % 2 = 1

/-- The loop over the cells for one kind of quote; `start` is the quote that is open. -/
def quotedFrom (clickedIdx : Nat) (quote : Char) : Nat → Option Nat → List TextCell →
    Option CellSpan
  | _, _, [] => none
  | idx, start, cell :: rest =>
    if cell.ch ≠ quote ∨ isEscaped cells idx = true then
      quotedFrom clickedIdx quote (idx + 1) start rest
    else
      match start with
      | none => quotedFrom clickedIdx quote (idx + 1) (some idx) rest
      | some opened =>
        if opened < clickedIdx ∧ clickedIdx < idx ∧
            ((cells.take idx).drop (opened + 1)).any (fun cell => cell.ch = '/') = true then
          some ⟨opened + 1, idx - 1⟩
        else quotedFrom clickedIdx quote (idx + 1) none rest

def pathQuotes : List Char := ['"', '\'', '\x60']

def quotedPathSpanAtColumn (clickedIdx : Nat) : Option CellSpan :=
  if cellIs cells (· ∈ pathQuotes) clickedIdx then none
  else pathQuotes.findSome? fun quote => quotedFrom cells clickedIdx quote 0 none cells

/-! ### Tokens -/

def isWordSeparator (ch : Char) : Bool :=
  Terminal.isWhitespace ch ||
    ch ∈ ['|', '(', ')', '[', ']', '\x7b', '\x7d', ',', ';', '!']

def isLeadingTokenWrapper (ch : Char) : Bool :=
  ch ∈ ['(', '[', '\x7b', '<', '"', '\'', '\x60']

def isTrailingTokenWrapper (ch : Char) : Bool :=
  ch ∈ [')', ']', '\x7d', '>', '"', '\'', '\x60', '.', ',', ';', ':', '!', '?']

/-- The start of a span moves right over the cells that are trimmed. -/
def trimStart (start stop : Nat) : Nat :=
  if start ≤ stop ∧ cellIs cells isLeadingTokenWrapper start = true then trimStart (start + 1) stop
  else start
termination_by stop + 1 - start

def trimTokenEdges (span : CellSpan) : Option CellSpan :=
  let start := trimStart cells span.start span.stop
  let stop :=
    if start < span.stop ∧ cellIs cells (· = '$') span.stop = true ∧
        cellIs cells isTrailingTokenWrapper (span.stop - 1) = true then span.stop - 1
    else span.stop
  trimmedSpan (cellIs cells isTrailingTokenWrapper) start stop

/-- A span grows to the left while the cell before it is no separator. -/
def tokenStart : Nat → Nat
  | 0 => 0
  | start + 1 => if cellIs cells isWordSeparator start then start + 1 else tokenStart start

def tokenSpanAtColumn (clickedIdx : Nat) : Option CellSpan :=
  if cellIs cells isWordSeparator clickedIdx then none
  else
    let start := tokenStart cells clickedIdx
    let stop := spanEnd cells isWordSeparator clickedIdx
    (trimTokenEdges cells ⟨start, stop⟩).filter fun span => span.contains clickedIdx

end

/-! ### Bytes of a row -/

/-- `char_indices`, without the characters. -/
def charOffsets : Nat → List Char → List Nat
  | _, [] => []
  | offset, ch :: rest => offset :: charOffsets (offset + ch.utf8Size) rest

def byteIndexForCell (row : List Char) (cellIdx : Nat) : Nat :=
  (charOffsets 0 row)[cellIdx]?.getD (byteLen row)

def byteIndexAfterCell (row : List Char) (cellIdx : Nat) : Nat :=
  (charOffsets 0 row)[cellIdx + 1]?.getD (byteLen row)

/-- `str::get` of a range. -/
def getBytes (text : List Char) (start stop : Nat) : Option (List Char) :=
  if start ≤ stop then (sliceBytes text start stop).toOption else none

def safeWebUrl (url : List Char) : Option (List Char) :=
  if httpScheme.isPrefixOf url || httpsScheme.isPrefixOf url then some url else none

/-! ### The click -/

section
variable (charWidth : Char → Nat) (row : List Char) (col : Nat)

def wordBoundsAtColumn : Option (Nat × Nat) := do
  let cells := textCells charWidth row
  let clickedIdx ← cellIndexAtColumn cells col
  let span ← ((urlSpanAtColumn cells clickedIdx).or
    (quotedPathSpanAtColumn cells clickedIdx)).or (tokenSpanAtColumn cells clickedIdx)
  span.columns cells

def urlAtColumn : Option (List Char) := do
  let cells := textCells charWidth row
  let clickedIdx ← cellIndexAtColumn cells col
  let span ← (urlSpans cells).find? fun span => span.contains clickedIdx
  let url ← getBytes row (byteIndexForCell row span.start) (byteIndexAfterCell row span.stop)
  safeWebUrl url

end

end Ork3.App
