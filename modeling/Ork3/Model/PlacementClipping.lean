import Ork3.Model.KittyGraphics

/-!
# Clipping with checked arithmetic

`kitty_graphics.rs`, `clipped_placement` as it runs with overflow checks: every plain `+`, `-` and
`/` fails where its result does not fit. The saturating operations never fail.
-/

namespace Ork3.Graphics

open Ork3.Library Ork3.Layout

/-! ### Operations that may fail -/

def checkedAdd (a b : UInt32) : Option UInt32 :=
  if a.toNat + b.toNat < 2 ^ 32 then some (a + b) else none

def checkedSub (a b : UInt32) : Option UInt32 := if b ≤ a then some (a - b) else none

def checkedAddU16 (a b : UInt16) : Option UInt16 :=
  if a.toNat + b.toNat < 2 ^ 16 then some (a + b) else none

/-- The product is a `u64` and saturates there. -/
def scalePixelsChecked (value source dest : UInt32) : Option UInt32 :=
  let product := min (value.toNat * source.toNat) (2 ^ 64 - 1)
  if max dest.toNat 1 = 0 then none
  else some (UInt32.ofNat (min (product / max dest.toNat 1) (2 ^ 32 - 1)))

/-- `none` is an arithmetic error, `some none` a placement that shows nothing. -/
def clippedPlacementChecked (p : HostPlacement) : Option (Option (ClippedPlacement × UInt32)) :=
  let render := p.placement.render
  let width := p.area.width.toUInt32
  let height := p.area.height.toUInt32
  if p.area.width = 0 ∨ p.area.height = 0 then some none
  else if render.gridCols = 0 ∨ render.gridRows = 0 then some none
  else
  let leftClipCells := if render.viewportCol < 0 then saturatingNeg render.viewportCol else 0
  let topClipCells := if render.viewportRow < 0 then saturatingNeg render.viewportRow else 0
  let viewportCol := (max render.viewportCol 0).toUInt32
  let viewportRow := (max render.viewportRow 0).toUInt32
  if width ≤ viewportCol ∨ height ≤ viewportRow then some none
  else do
  let widthLeft ← checkedSub width viewportCol
  let visibleCols := min (saturatingSub render.gridCols leftClipCells) widthLeft
  let heightLeft ← checkedSub height viewportRow
  let visibleRows := min (saturatingSub render.gridRows topClipCells) heightLeft
  if visibleCols = 0 ∨ visibleRows = 0 then some none
  else do
  let image := p.placement.image
  let sourceWidth := if render.sourceWidth = 0 then image.imageWidth else render.sourceWidth
  let sourceHeight := if render.sourceHeight = 0 then image.imageHeight else render.sourceHeight
  let pixelWidth :=
    max (max render.pixelWidth (saturatingMul render.gridCols p.cellSize.widthPx)) 1
  let pixelHeight :=
    max (max render.pixelHeight (saturatingMul render.gridRows p.cellSize.heightPx)) 1
  let cropLeftPx := saturatingMul leftClipCells p.cellSize.widthPx
  let cropTopPx := saturatingMul topClipCells p.cellSize.heightPx
  let visibleWidthPx := saturatingMul visibleCols p.cellSize.widthPx
  let visibleHeightPx := saturatingMul visibleRows p.cellSize.heightPx
  let sourceX ← checkedAdd render.sourceX (← scalePixelsChecked cropLeftPx sourceWidth pixelWidth)
  let sourceY ← checkedAdd render.sourceY (← scalePixelsChecked cropTopPx sourceHeight pixelHeight)
  let scaledWidth ← scalePixelsChecked visibleWidthPx sourceWidth pixelWidth
  let sourceWidth := min (max scaledWidth 1) (saturatingSub image.imageWidth sourceX)
  let scaledHeight ← scalePixelsChecked visibleHeightPx sourceHeight pixelHeight
  let sourceHeight := min (max scaledHeight 1) (saturatingSub image.imageHeight sourceY)
  if sourceWidth = 0 ∨ sourceHeight = 0 then some none
  else do
    let x ← checkedAddU16 p.area.x viewportCol.toUInt16
    let y ← checkedAddU16 p.area.y viewportRow.toUInt16
    some (some ({
      x := x
      y := y
      cols := visibleCols
      rows := visibleRows
      sourceX := sourceX
      sourceY := sourceY
      sourceWidth := sourceWidth
      sourceHeight := sourceHeight
      xOffset := if leftClipCells = 0 then p.placement.xOffset else 0
      yOffset := if topClipCells = 0 then p.placement.yOffset else 0 },
      kittyFormatCode image.format))

end Ork3.Graphics
