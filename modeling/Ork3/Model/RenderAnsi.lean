import Ork3.Library.Text
import Ork3.Model.HostTerminal

/-!
# Frames as terminal sequences

`protocol/render_ansi.rs`. A writer is the list of the sequences it writes; the display width of a
symbol belongs to another crate and is a parameter.
-/

namespace Ork3.Render

open Ork3.Library

structure CellData where
  symbol : String
  fg : UInt32
  bg : UInt32
  modifier : UInt16
  skip : Bool
  hyperlink : Option UInt32
  deriving DecidableEq

structure CursorState where
  x : Nat
  y : Nat
  visible : Bool
  shape : UInt8
  deriving DecidableEq

/-- What the graphics bytes of a frame make a terminal do. -/
inductive GraphicsOp
  | moveTo (row col : Nat)
  | image (control : String)
  deriving DecidableEq

def GraphicsOp.toTermOp : GraphicsOp → TermOp
  | .moveTo row col => .moveTo row col
  | .image control => .image control

/-- A rendered frame to be displayed by the client. -/
structure FrameData where
  cells : List CellData
  width : Nat
  height : Nat
  cursor : Option CursorState
  hyperlinks : List String
  graphics : List GraphicsOp
  cells_length : cells.length = width * height
  deriving DecidableEq

def FrameData.cell (frame : FrameData) (row col : Nat) : Option CellData :=
  frame.cells[row * frame.width + col]?

/-! ### Styles -/

def paletteColor (code : UInt32) : Option (String × String) :=
  [("39", "49"), ("30", "40"), ("31", "41"), ("32", "42"), ("33", "43"), ("34", "44"), ("35", "45"),
    ("36", "46"), ("37", "47"), ("90", "100"), ("91", "101"), ("92", "102"), ("93", "103"),
    ("94", "104"), ("95", "105"), ("96", "106"), ("97", "107")][code.toNat]?

def rgbParameters (lead : String) (val : UInt32) : String :=
  lead ++ ";2;" ++ toString ((val >>> 16) &&& 0xff).toNat ++ ";" ++
    toString ((val >>> 8) &&& 0xff).toNat ++ ";" ++ toString (val &&& 0xff).toNat

def colorToSgrFg (val : UInt32) : String :=
  match (val >>> 24).toNat with
  | 0 => ((paletteColor (val &&& 0xff)).map Prod.fst).getD "39"
  | 1 => "38;5;" ++ toString (val &&& 0xff).toNat
  | 2 => rgbParameters "38" val
  | _ => "39"

def colorToSgrBg (val : UInt32) : String :=
  match (val >>> 24).toNat with
  | 0 => ((paletteColor (val &&& 0xff)).map Prod.snd).getD "49"
  | 1 => "48;5;" ++ toString (val &&& 0xff).toNat
  | 2 => rgbParameters "48" val
  | _ => "49"

def underlineStyleFromModifier (modifier : UInt16) : Nat :=
  ((modifier &&& 0xf000) >>> 12).toNat

def modifierToSgrParts (val : UInt16) : List String :=
  let part (bit : UInt16) (parameter : String) : List String :=
    if val &&& bit ≠ 0 then [parameter] else []
  part 0x01 "1" ++ part 0x02 "2" ++ part 0x04 "3" ++
    part 0x08 (match underlineStyleFromModifier val with
      | 2 => "4:2"
      | 3 => "4:3"
      | 4 => "4:4"
      | 5 => "4:5"
      | _ => "4") ++
    part 0x10 "5" ++ part 0x20 "6" ++ part 0x40 "7" ++ part 0x80 "8" ++ part 0x100 "9"

/-- The parameters of the complete SGR sequence for a cell's style. -/
def buildSgr (fg bg : UInt32) (modifier : UInt16) : String :=
  String.intercalate ";" ("0" :: (modifierToSgrParts modifier ++ [colorToSgrFg fg, colorToSgrBg bg]))

/-! ### Hyperlinks -/

def sanitizedHyperlinkUri (uri : String) : Option String :=
  let sanitized := String.ofList (uri.toList.filter fun c => !isControl c)
  if sanitized.isEmpty then none else some sanitized

def cellHyperlinkUri (frame : FrameData) (cell : CellData) : Option String :=
  cell.hyperlink.bind fun index => frame.hyperlinks[index.toNat]?

def sanitizedFrameHyperlinks (frame : FrameData) : List (Option String) :=
  frame.hyperlinks.map sanitizedHyperlinkUri

def sanitizedCellHyperlinkUri (sanitizedHyperlinks : List (Option String)) (cell : CellData) :
    Option String :=
  cell.hyperlink.bind fun index => (sanitizedHyperlinks[index.toNat]?).bind id

/-- What was written, and the hyperlink that is now active. -/
def writeHyperlinkIfChanged (active requested : Option String) : List TermOp × Option String :=
  let requested := requested.bind sanitizedHyperlinkUri
  if active = requested then ([], active)
  else
    ((if active.isSome then [.hyperlink none] else []) ++
      (match requested with
        | some uri => [.hyperlink (some uri)]
        | none => []), requested)

def closeHyperlink (active : Option String) : List TermOp :=
  if active.isSome then [.hyperlink none] else []

/-! ### Cells -/

section
variable (width : String → Nat)

structure FullPaint where
  ops : List TermOp
  activeHyperlink : Option String
  toSkip : Nat

/-- The body of the loop of `write_all_cells`. -/
def paintCell (frame : FrameData) (row : Nat) (p : FullPaint) (col : Nat) : FullPaint :=
  if p.toSkip > 0 then { p with toSkip := p.toSkip - 1 }
  else
    match frame.cell row col with
    | none => p
    | some cell =>
      if cell.skip then p
      else
        let (link, active) :=
          writeHyperlinkIfChanged p.activeHyperlink (cellHyperlinkUri frame cell)
        { ops := p.ops ++ [.moveTo row col, .sgr (buildSgr cell.fg cell.bg cell.modifier)] ++ link ++
            [.print cell.symbol]
          activeHyperlink := active
          toSkip := width cell.symbol - 1 }

def paintRow (frame : FrameData) (p : FullPaint) (row : Nat) : FullPaint :=
  (List.range frame.width).foldl (paintCell width frame row) { p with toSkip := 0 }

def writeAllCells (frame : FrameData) : List TermOp :=
  let p := (List.range frame.height).foldl (paintRow width frame) ⟨[], none, 0⟩
  p.ops ++ closeHyperlink p.activeHyperlink ++ [.sgr "0"]

structure DiffPaint where
  ops : List TermOp
  lastSgr : String
  activeHyperlink : Option String
  invalidated : Nat
  toSkip : Nat

def writeCell (frame : FrameData) (row col : Nat) (cell : CellData) (p : DiffPaint) : DiffPaint :=
  if cell.skip then p
  else
    let sgr := buildSgr cell.fg cell.bg cell.modifier
    let (link, active) := writeHyperlinkIfChanged p.activeHyperlink (cellHyperlinkUri frame cell)
    { p with
      ops := p.ops ++ [.moveTo row col] ++ (if sgr ≠ p.lastSgr then [.sgr sgr] else []) ++ link ++
        [.print cell.symbol]
      lastSgr := sgr
      activeHyperlink := active }

def cellsVisuallyEqual (sanitizedHyperlinks : List (Option String)) (cell : CellData)
    (prevSanitizedHyperlinks : List (Option String)) (prevCell : CellData) : Bool :=
  cell.symbol = prevCell.symbol && cell.fg = prevCell.fg && cell.bg = prevCell.bg &&
    cell.modifier = prevCell.modifier &&
    sanitizedCellHyperlinkUri sanitizedHyperlinks cell =
      sanitizedCellHyperlinkUri prevSanitizedHyperlinks prevCell

/-- The body of the loop of `write_changed_cells`. -/
def diffCell (frame prev : FrameData) (row : Nat) (p : DiffPaint) (col : Nat) : DiffPaint :=
  match frame.cell row col, prev.cell row col with
  | some cell, some prevCell =>
    let p :=
      if !cell.skip &&
          (!cellsVisuallyEqual (sanitizedFrameHyperlinks frame) cell
            (sanitizedFrameHyperlinks prev) prevCell || p.invalidated > 0) &&
          p.toSkip = 0 then
        writeCell frame row col cell p
      else p
    { p with
      toSkip := width cell.symbol - 1
      invalidated :=
        max (max (width cell.symbol) (width prevCell.symbol)) p.invalidated - 1 }
  | _, _ => p

def diffRow (frame prev : FrameData) (p : DiffPaint) (row : Nat) : DiffPaint :=
  (List.range frame.width).foldl (diffCell width frame prev row)
    { p with
      invalidated := 0
      toSkip := 0 }

def writeChangedCells (frame prev : FrameData) : List TermOp :=
  let p := (List.range frame.height).foldl (diffRow width frame prev) ⟨[], "", none, 0, 0⟩
  p.ops ++ closeHyperlink p.activeHyperlink ++ (if p.lastSgr.isEmpty then [] else [.sgr "0"])

end

/-! ### The cursor -/

structure HostCursorState where
  position : Nat × Nat
  visible : Bool
  /-- DECSCUSR parameter (0–6). 0 means terminal default. -/
  shape : UInt8
  deriving DecidableEq

def normalizeCursorShape (shape : UInt8) : UInt8 :=
  if shape ≤ 6 then shape else 0

def defaultHiddenCursorPosition (frame : FrameData) : Nat × Nat :=
  (frame.width - 1, frame.height - 1)

def clampCursorPosition (frame : FrameData) (x y : Nat) : Nat × Nat :=
  (min x (frame.width - 1), min y (frame.height - 1))

/-- The state, and the position of the last visible cursor from now on. -/
def resolveHostCursorState (frame : FrameData) (lastVisibleCursor : Option (Nat × Nat)) :
    HostCursorState × Option (Nat × Nat) :=
  match frame.cursor with
  | some cursor =>
    let position := clampCursorPosition frame cursor.x cursor.y
    if cursor.visible then
      (⟨position, true, normalizeCursorShape cursor.shape⟩, some position)
    else (⟨position, false, normalizeCursorShape cursor.shape⟩, lastVisibleCursor)
  | none =>
    let position :=
      match lastVisibleCursor with
      | some (x, y) => clampCursorPosition frame x y
      | none => defaultHiddenCursorPosition frame
    (⟨position, false, 0⟩, lastVisibleCursor)

def writeCursorPosition (position : Nat × Nat) : List TermOp :=
  [.moveTo position.2 position.1]

/-- What was written, and the shape the terminal is now taken to have. -/
def writeHostCursorState (cursor : HostCursorState) (lastShape : UInt8) : List TermOp × UInt8 :=
  (writeCursorPosition cursor.position ++
    (if cursor.shape ≠ lastShape then [.setCursorShape cursor.shape] else []) ++
    [if cursor.visible then .showCursor else .hideCursor], cursor.shape)

def writeImeAnchorCursorState (cursor : HostCursorState) : List TermOp :=
  writeCursorPosition cursor.position ++ [if cursor.visible then .showCursor else .hideCursor]

/-! ### Frames -/

structure Blit where
  ops : List TermOp
  lastVisibleCursor : Option (Nat × Nat)
  lastCursorShape : UInt8

/-- `blit_frame_to_with_cursor_memory_and_policy`. -/
def blitFrame (width : String → Nat) (frame : FrameData) (prev : Option FrameData)
    (lastVisibleCursor : Option (Nat × Nat)) (lastCursorShape : UInt8)
    (repeatImeAnchor suppressVisibleCursor : Bool) : Blit :=
  let cells :=
    match prev.filter fun p => p.width = frame.width && p.height = frame.height with
    | none => [.clearScreen, .moveTo 0 0] ++ writeAllCells width frame
    | some prev => writeChangedCells width frame prev
  let (resolved, lastVisibleCursor) := resolveHostCursorState frame lastVisibleCursor
  let hostCursor := { resolved with visible := resolved.visible && !suppressVisibleCursor }
  let (cursorOps, lastCursorShape) := writeHostCursorState hostCursor lastCursorShape
  { ops := [.beginSync, .hideCursor, .hyperlink none] ++ cells ++ cursorOps ++ [.endSync] ++
      (if repeatImeAnchor then writeImeAnchorCursorState hostCursor else [])
    lastVisibleCursor := lastVisibleCursor
    lastCursorShape := lastCursorShape }

end Ork3.Render
