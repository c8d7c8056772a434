import Ork3.Library.GlyphRow

/-!
# The host terminal

What a terminal does with the sequences the renderer writes. It is as wide and as high as the frames
it is sent. A style is the text of the SGR parameters since the last reset; what is printed carries
the style and the hyperlink in force.
-/

namespace Ork3.Render

open Ork3.Library

inductive TermOp
  /-- Begin and end of a synchronized update. -/
  | beginSync | endSync
  | showCursor | hideCursor
  /-- CUP, with positions counted from 0. -/
  | moveTo (row col : Nat)
  | clearScreen
  /-- DECSCUSR. -/
  | setCursorShape (shape : UInt8)
  | sgr (parameters : String)
  /-- OSC 8; `none` ends the hyperlink. -/
  | hyperlink (uri : Option String)
  | print (symbol : String)
  /-- A graphics command; it leaves the cursor alone. -/
  | image (control : String)
  deriving DecidableEq

structure Glyph where
  symbol : String
  style : String
  hyperlink : Option String
  deriving DecidableEq

structure HostTerminal where
  screen : Nat → Nat → GridCell Glyph
  cursor : Nat × Nat
  cursorVisible : Bool
  cursorShape : UInt8
  style : String
  hyperlink : Option String

/-- The style after some SGR parameters; a leading `0` resets it. -/
def applySgr (style parameters : String) : String :=
  if parameters = "0" ∨ parameters.toList.take 2 = ['0', ';'] then parameters
  else style ++ ";" ++ parameters

namespace HostTerminal

section
variable (width : String → Nat)

/-- Prints at the cursor: a symbol of width 2 takes two columns, any other takes one. -/
def print (t : HostTerminal) (symbol : String) : HostTerminal :=
  let (row, col) := t.cursor
  let glyph : Glyph := ⟨symbol, t.style, t.hyperlink⟩
  let line :=
    if width symbol = 2 then printWide col glyph (t.screen row)
    else printNarrow col glyph (t.screen row)
  { t with
    screen := fun r => if r = row then line else t.screen r
    cursor := (row, col + width symbol) }

def apply (t : HostTerminal) : TermOp → HostTerminal
  | .beginSync => t
  | .endSync => t
  | .showCursor => { t with cursorVisible := true }
  | .hideCursor => { t with cursorVisible := false }
  | .moveTo row col => { t with cursor := (row, col) }
  | .clearScreen => { t with screen := fun _ _ => .blank }
  | .setCursorShape shape => { t with cursorShape := shape }
  | .sgr parameters => { t with style := applySgr t.style parameters }
  | .hyperlink uri => { t with hyperlink := uri }
  | .print symbol => t.print width symbol
  | .image _ => t

def run (t : HostTerminal) (ops : List TermOp) : HostTerminal :=
  ops.foldl (apply width) t

end

end HostTerminal

end Ork3.Render
