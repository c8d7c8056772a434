import Ork3.Model.RenderAnsi

/-!
# The render stream of a client

`server/render_stream.rs` and the encoder of `protocol/render_ansi.rs`. Whether the cursor is
repeated behind the synchronized update depends on the platform.
-/

namespace Ork3.Render

/-- Encodes successive frames against the last one that was sent. -/
structure BlitEncoder where
  lastFrame : Option FrameData
  lastVisibleCursor : Option (Nat × Nat)
  lastCursorShape : UInt8

structure EncodedBlit where
  ops : List TermOp
  full : Bool
  nextLastVisibleCursor : Option (Nat × Nat)
  nextLastCursorShape : UInt8

namespace BlitEncoder

def new : BlitEncoder := ⟨none, none, 0⟩

/-- `encode` without a forced full redraw. -/
def encode (width : String → Nat) (repeatImeAnchor : Bool) (encoder : BlitEncoder)
    (frame : FrameData) : EncodedBlit :=
  let blit := blitFrame width frame encoder.lastFrame encoder.lastVisibleCursor
    encoder.lastCursorShape repeatImeAnchor false
  { ops := blit.ops
    full := encoder.lastFrame.isNone ||
      encoder.lastFrame.any fun p => p.width ≠ frame.width || p.height ≠ frame.height
    nextLastVisibleCursor := blit.lastVisibleCursor
    nextLastCursorShape := blit.lastCursorShape }

def commit (_ : BlitEncoder) (frame : FrameData) (encoded : EncodedBlit) : BlitEncoder :=
  ⟨some frame, encoded.nextLastVisibleCursor, encoded.nextLastCursorShape⟩

def isCurrent (encoder : BlitEncoder) (frame : FrameData) : Bool :=
  encoder.lastFrame = some frame

end BlitEncoder

/-- The graphics come before the last end of a synchronized update, or behind everything. -/
def insertGraphicsBeforeSyncEnd (encoded : List TermOp) (graphics : List GraphicsOp) :
    List TermOp :=
  if graphics.isEmpty then encoded
  else
    let behind := (encoded.reverse.takeWhile fun op => op ≠ .endSync).reverse
    match encoded.reverse.dropWhile fun op => op ≠ .endSync with
    | [] => encoded ++ graphics.map GraphicsOp.toTermOp
    | syncEnd :: before =>
      before.reverse ++ graphics.map GraphicsOp.toTermOp ++ syncEnd :: behind

structure TerminalFrame where
  seq : Nat
  width : Nat
  height : Nat
  full : Bool
  ops : List TermOp

inductive ServerMessage where
  | frame (frame : FrameData)
  | terminal (frame : TerminalFrame)

inductive RenderEncoding where
  | semanticFrame
  | terminalAnsi
  deriving DecidableEq

/-- Per-client render baseline for the negotiated render encoding. -/
inductive ClientRenderState where
  | semantic (lastFrame : Option FrameData)
  | terminalAnsi (blitEncoder : BlitEncoder) (seq : Nat)

inductive PreparedRender where
  | semantic (frame : FrameData)
  | terminalAnsi (message : TerminalFrame) (frame : FrameData) (encoded : EncodedBlit)

def PreparedRender.message : PreparedRender → ServerMessage
  | .semantic frame => .frame frame
  | .terminalAnsi message _ _ => .terminal message

namespace ClientRenderState

def new : RenderEncoding → ClientRenderState
  | .semanticFrame => .semantic none
  | .terminalAnsi => .terminalAnsi .new 0

def resetBaseline : ClientRenderState → ClientRenderState
  | .semantic _ => .semantic none
  | .terminalAnsi _ seq => .terminalAnsi .new seq

def prepareFrame (width : String → Nat) (repeatImeAnchor : Bool) (frame : FrameData) :
    ClientRenderState → Option PreparedRender
  | .semantic lastFrame => if lastFrame = some frame then none else some (.semantic frame)
  | .terminalAnsi blitEncoder seq =>
    if blitEncoder.isCurrent frame then none
    else
      let encoded := blitEncoder.encode width repeatImeAnchor frame
      let encoded := { encoded with ops := insertGraphicsBeforeSyncEnd encoded.ops frame.graphics }
      some (.terminalAnsi
        { seq := seq + 1
          width := frame.width
          height := frame.height
          full := encoded.full
          ops := encoded.ops } frame encoded)

def commitSentFrame : ClientRenderState → PreparedRender → ClientRenderState
  | .semantic _, .semantic frame => .semantic (some frame)
  | .terminalAnsi blitEncoder seq, .terminalAnsi _ frame encoded =>
    .terminalAnsi (blitEncoder.commit frame encoded) (seq + 1)
  | state, _ => state

end ClientRenderState

end Ork3.Render
