import Ork3.Library.Table
import Ork3.Model.Layout

/-!
# Kitty graphics on the host terminal

`kitty_graphics.rs`. The images of the visible panes are uploaded to the host terminal and placed
there; a cache records what the host has. The escape sequences are the commands they encode, and
`DefaultHasher` is a parameter, a function of the bytes written to it.
-/

namespace Ork3.Graphics

open Ork3.Library Ork3.Layout

/-! ### Images and placements -/

structure HostCellSize where
  widthPx : UInt32
  heightPx : UInt32

structure KittyPlacementRenderInfo where
  pixelWidth : UInt32
  pixelHeight : UInt32
  gridCols : UInt32
  gridRows : UInt32
  viewportCol : Int32
  viewportRow : Int32
  sourceX : UInt32
  sourceY : UInt32
  sourceWidth : UInt32
  sourceHeight : UInt32

inductive KittyImageFormat
  | rgb | rgba | png
  deriving DecidableEq

def kittyFormatCode : KittyImageFormat → UInt32
  | .rgb => 24
  | .rgba => 32
  | .png => 100

/-- An image of a pane with its pixel data. -/
structure KittyImage where
  imageWidth : UInt32
  imageHeight : UInt32
  format : KittyImageFormat
  data : List UInt8
  dataFingerprint : UInt64
  deriving DecidableEq

/-- A placement of an image. The data of the image may have been left out. -/
structure KittyImagePlacement where
  imageId : UInt32
  placementId : UInt32
  z : Int32
  xOffset : UInt32
  yOffset : UInt32
  image : KittyImage
  dataIncluded : Bool
  render : KittyPlacementRenderInfo

def KittyImagePlacement.data (p : KittyImagePlacement) : List UInt8 :=
  if p.dataIncluded then p.image.data else []

inductive HostSourceKey
  | terminal (paneId : PaneId) (imageId : UInt32)
  | paneLayer (paneId : PaneId)
  deriving DecidableEq

def HostSourceKey.isPaneLayer : HostSourceKey → Bool
  | .terminal .. => false
  | .paneLayer _ => true

structure HostPlacement where
  paneId : PaneId
  area : Rect
  cellSize : HostCellSize
  sourceKey : HostSourceKey
  placement : KittyImagePlacement
  scrollbackOffset : UInt32

structure ImageSignature where
  imageWidth : UInt32
  imageHeight : UInt32
  formatCode : UInt32
  dataLen : Nat
  dataFingerprint : UInt64
  deriving DecidableEq

structure ClippedPlacement where
  x : UInt16
  y : UInt16
  cols : UInt32
  rows : UInt32
  sourceX : UInt32
  sourceY : UInt32
  sourceWidth : UInt32
  sourceHeight : UInt32
  xOffset : UInt32
  yOffset : UInt32
  deriving DecidableEq

structure PlacementSignature where
  clipped : ClippedPlacement
  z : Int32
  scrollbackOffset : UInt32
  deriving DecidableEq

structure HostViewKey where
  workspaceIndex : Nat
  tabIndex : Nat
  deriving DecidableEq

structure HostGraphicsCache where
  images : Table UInt32 ImageSignature
  placements : Table (UInt32 × UInt32) PlacementSignature
  /-- The host image currently behind each source. -/
  sources : Table HostSourceKey UInt32
  view : Option HostViewKey

def HostGraphicsCache.default : HostGraphicsCache := ⟨∅, ∅, ∅, none⟩

/-! ### Clipping -/

def saturatingSub (a b : UInt32) : UInt32 := if a < b then 0 else a - b

def saturatingMul (a b : UInt32) : UInt32 :=
  UInt32.ofNat (min (a.toNat * b.toNat) (2 ^ 32 - 1))

/-- `saturating_neg() as u32` of a negative number. -/
def saturatingNeg (v : Int32) : UInt32 :=
  if v = Int32.minValue then 2147483647 else (-v).toUInt32

def scalePixels (value source dest : UInt32) : UInt32 :=
  UInt32.ofNat (min (value.toNat * source.toNat / max dest.toNat 1) (2 ^ 32 - 1))

def clippedPlacement (p : HostPlacement) : Option (ClippedPlacement × UInt32) :=
  let render := p.placement.render
  let width := p.area.width.toUInt32
  let height := p.area.height.toUInt32
  if p.area.width = 0 ∨ p.area.height = 0 then none
  else if render.gridCols = 0 ∨ render.gridRows = 0 then none
  else
  let leftClipCells := if render.viewportCol < 0 then saturatingNeg render.viewportCol else 0
  let topClipCells := if render.viewportRow < 0 then saturatingNeg render.viewportRow else 0
  let viewportCol := (max render.viewportCol 0).toUInt32
  let viewportRow := (max render.viewportRow 0).toUInt32
  if width ≤ viewportCol ∨ height ≤ viewportRow then none
  else
  let visibleCols := min (saturatingSub render.gridCols leftClipCells) (width - viewportCol)
  let visibleRows := min (saturatingSub render.gridRows topClipCells) (height - viewportRow)
  if visibleCols = 0 ∨ visibleRows = 0 then none
  else
  let image := p.placement.image
  let sourceWidth := if render.sourceWidth = 0 then image.imageWidth else render.sourceWidth
  let sourceHeight := if render.sourceHeight = 0 then image.imageHeight else render.sourceHeight
  let pixelWidth :=
    max (max render.pixelWidth (saturatingMul render.gridCols p.cellSize.widthPx)) 1
  let pixelHeight :=
    max (max render.pixelHeight (saturatingMul render.gridRows p.cellSize.heightPx)) 1
  let cropLeftPx := saturatingMul leftClipCells p.cellSize.widthPx
  let cropTopPx := saturatingMul topClipCells p.cellSize.heightPx
  let visibleWidthPx := saturatingMul visibleCols p.cellSize.widthPx
  let visibleHeightPx := saturatingMul visibleRows p.cellSize.heightPx
  let sourceX := render.sourceX + scalePixels cropLeftPx sourceWidth pixelWidth
  let sourceY := render.sourceY + scalePixels cropTopPx sourceHeight pixelHeight
  let sourceWidth := min (max (scalePixels visibleWidthPx sourceWidth pixelWidth) 1)
    (saturatingSub image.imageWidth sourceX)
  let sourceHeight := min (max (scalePixels visibleHeightPx sourceHeight pixelHeight) 1)
    (saturatingSub image.imageHeight sourceY)
  if sourceWidth = 0 ∨ sourceHeight = 0 then none
  else
    some ({
      x := p.area.x + viewportCol.toUInt16
      y := p.area.y + viewportRow.toUInt16
      cols := visibleCols
      rows := visibleRows
      sourceX := sourceX
      sourceY := sourceY
      sourceWidth := sourceWidth
      sourceHeight := sourceHeight
      xOffset := if leftClipCells = 0 then p.placement.xOffset else 0
      yOffset := if topClipCells = 0 then p.placement.yOffset else 0 },
      kittyFormatCode image.format)

/-! ### Signatures and ids -/

def KittyImage.signature (image : KittyImage) : ImageSignature where
  imageWidth := image.imageWidth
  imageHeight := image.imageHeight
  formatCode := kittyFormatCode image.format
  dataLen := image.data.length
  dataFingerprint := image.dataFingerprint

def imageSignature (p : HostPlacement) : ImageSignature := p.placement.image.signature

def placementSignature (clipped : ClippedPlacement) (z : Int32) (scrollbackOffset : UInt32) :
    PlacementSignature :=
  ⟨clipped, z, scrollbackOffset⟩

/-- The `n` bytes an integer writes to a hasher. -/
def leBytes (n value : Nat) : List UInt8 :=
  (List.range n).map fun i => UInt8.ofNat (value / 256 ^ i)

def hashedPaneId (id : PaneId) : List UInt8 := leBytes 4 id.raw.toNat

def ImageSignature.hashed (signature : ImageSignature) : List UInt8 :=
  leBytes 4 signature.imageWidth.toNat ++ leBytes 4 signature.imageHeight.toNat ++
    leBytes 4 signature.formatCode.toNat ++ leBytes 8 signature.dataLen ++
    leBytes 8 signature.dataFingerprint.toNat

def hostImageIdBase : UInt32 := 10000

def paneGraphicsImageIdBit : UInt32 := 2147483648

section
variable (hash : List UInt8 → UInt64)

def hostImageIdForSignature (paneId : PaneId) (signature : ImageSignature) : UInt32 :=
  hostImageIdBase + (hash (hashedPaneId paneId ++ signature.hashed)).toUInt32 % 900000

def hostImageId (paneId : PaneId) (placement : KittyImagePlacement) : UInt32 :=
  hostImageIdForSignature hash paneId placement.image.signature

def paneGraphicsHostImageId (paneId : PaneId) (signature : ImageSignature) : UInt32 :=
  paneGraphicsImageIdBit |||
    ((hash (hashedPaneId paneId ++ signature.hashed)).toUInt32 &&& ~~~paneGraphicsImageIdBit)

def hostPlacementId (sourceKey : HostSourceKey) (placement : KittyImagePlacement) : UInt32 :=
  let source := match sourceKey with
    | .terminal paneId _ => hashedPaneId paneId
    | .paneLayer paneId =>
      ("pane.graphics".toList.map fun c => c.toNat.toUInt8) ++ [0xff] ++ hashedPaneId paneId
  1 + (hash (source ++ leBytes 4 placement.imageId.toNat ++
    leBytes 4 placement.placementId.toNat)).toUInt32 % 900000

end

/-! ### Collecting -/

inductive PaneGraphicsFormat
  | png | rgb | rgba

def paneGraphicsKittyFormat : PaneGraphicsFormat → KittyImageFormat
  | .png => .png
  | .rgb => .rgb
  | .rgba => .rgba

structure PaneGraphicsPlacementParams where
  viewportCol : Int32
  viewportRow : Int32
  gridCols : UInt32
  gridRows : UInt32

structure PaneGraphicsLayer where
  format : PaneGraphicsFormat
  imageWidth : UInt32
  imageHeight : UInt32
  data : List UInt8
  dataFingerprint : UInt64
  render : PaneGraphicsPlacementParams

def PaneGraphicsLayer.image (layer : PaneGraphicsLayer) : KittyImage where
  imageWidth := layer.imageWidth
  imageHeight := layer.imageHeight
  format := paneGraphicsKittyFormat layer.format
  data := layer.data
  dataFingerprint := layer.dataFingerprint

/-- A visible placement of a terminal, which names its image. -/
structure TerminalPlacement where
  imageId : UInt32
  placementId : UInt32
  z : Int32
  xOffset : UInt32
  yOffset : UInt32
  render : KittyPlacementRenderInfo

/-- What the terminal of a pane shows. -/
structure TerminalGraphics where
  images : Table UInt32 KittyImage
  placements : List TerminalPlacement
  offsetFromBottom : UInt32

structure PaneInfo where
  id : PaneId
  innerRect : Rect

/-- What is visible of the application. -/
structure VisibleApp where
  hasActiveTab : Bool
  paneInfos : List PaneInfo
  paneGraphicsLayers : Table PaneId PaneGraphicsLayer
  runtimes : Table PaneId TerminalGraphics

/-- The placements whose image the terminal still has, with the data that is needed. -/
def kittyImagePlacementsWithDataFilter (graphics : TerminalGraphics)
    (needsData : KittyImage → Bool) : List KittyImagePlacement :=
  graphics.placements.filterMap fun p => (graphics.images.lookup p.imageId).map fun image =>
    { imageId := p.imageId
      placementId := p.placementId
      z := p.z
      xOffset := p.xOffset
      yOffset := p.yOffset
      image := image
      dataIncluded := needsData image
      render := p.render }

section
variable (hash : List UInt8 → UInt64)

def paneGraphicsHostPlacement (info : PaneInfo) (cellSize : HostCellSize)
    (layer : PaneGraphicsLayer) (uploadedImages : Table UInt32 ImageSignature)
    (includeData : Bool) : HostPlacement :=
  let signature := layer.image.signature
  let hostId := paneGraphicsHostImageId hash info.id signature
  let render := layer.render
  { paneId := info.id
    area := info.innerRect
    cellSize := cellSize
    sourceKey := .paneLayer info.id
    scrollbackOffset := 0
    placement :=
      { imageId := 1
        placementId := 1
        z := 0
        xOffset := 0
        yOffset := 0
        image := layer.image
        dataIncluded := includeData && uploadedImages.lookup hostId ≠ some signature
        render :=
          { pixelWidth := layer.imageWidth
            pixelHeight := layer.imageHeight
            gridCols :=
              if render.gridCols = 0 then info.innerRect.width.toUInt32 else render.gridCols
            gridRows :=
              if render.gridRows = 0 then info.innerRect.height.toUInt32 else render.gridRows
            viewportCol := render.viewportCol
            viewportRow := render.viewportRow
            sourceX := 0
            sourceY := 0
            sourceWidth := 0
            sourceHeight := 0 } } }

/-- The body of the loop over the visible panes. -/
def collectPanePlacements (app : VisibleApp) (cellSize : HostCellSize)
    (uploadedImages : Table UInt32 ImageSignature) (info : PaneInfo) : List HostPlacement :=
  let layer := (app.paneGraphicsLayers.lookup info.id).map fun layer =>
    paneGraphicsHostPlacement hash info cellSize layer uploadedImages true
  let terminal := (app.runtimes.lookup info.id).map fun graphics =>
    (kittyImagePlacementsWithDataFilter graphics fun image =>
      let hostId := hostImageIdForSignature hash info.id image.signature
      uploadedImages.lookup hostId ≠ some image.signature).map fun placement =>
        { paneId := info.id
          area := info.innerRect
          cellSize := cellSize
          sourceKey := .terminal info.id placement.imageId
          placement := placement
          scrollbackOffset := graphics.offsetFromBottom : HostPlacement }
  layer.toList ++ terminal.getD []

def collectVisiblePlacements (app : VisibleApp) (cellSize : HostCellSize)
    (uploadedImages : Table UInt32 ImageSignature) : List HostPlacement :=
  if app.hasActiveTab then
    app.paneInfos.flatMap (collectPanePlacements hash app cellSize uploadedImages)
  else
    []

end

/-! ### Commands -/

/-- A graphics command as the host terminal reads it. -/
inductive GraphicsCommand
  | transmit (id formatCode width height : UInt32) (data : List UInt8)
  | display (id placementId : UInt32) (clipped : ClippedPlacement) (z : Int32)
  | deleteImage (id : UInt32)
  | deletePlacement (id placementId : UInt32)
  deriving DecidableEq

def encodeUploadImage (p : HostPlacement) (formatCode hostId : UInt32) :
    Option GraphicsCommand :=
  if p.placement.data.isEmpty then none
  else
    some (.transmit hostId formatCode p.placement.image.imageWidth p.placement.image.imageHeight
      p.placement.data)

/-! ### The update -/

/-- Drops the placements of an image, which the host deletes with it. -/
def HostGraphicsCache.withoutPlacementsOf (cache : HostGraphicsCache) (hostId : UInt32) :
    HostGraphicsCache :=
  { cache with placements := cache.placements.retain fun key _ => key.1 ≠ hostId }

def HostGraphicsCache.withoutImage (cache : HostGraphicsCache) (hostId : UInt32) :
    HostGraphicsCache :=
  { cache.withoutPlacementsOf hostId with images := cache.images.erase hostId }

structure GraphicsUpdate where
  cache : HostGraphicsCache
  currentPlacements : Finset (UInt32 × UInt32)
  commands : List GraphicsCommand

/-- The sources that stay: those of terminals, and those of layers that are shown. -/
def currentSources (placements : List HostPlacement) : List HostSourceKey :=
  (placements.filter fun p =>
    !p.sourceKey.isPaneLayer || (clippedPlacement p).isSome).map (·.sourceKey)

/-- Deletes the image of a layer that is gone unless another source has it too. -/
def dropRemovedLayerImage (u : GraphicsUpdate) (hostId : UInt32) : GraphicsUpdate :=
  if hostId ∈ u.cache.sources.values then u
  else
    { u with
      cache := u.cache.withoutImage hostId
      commands := u.commands ++ [.deleteImage hostId] }

def pruneSources (cache : HostGraphicsCache) (placements : List HostPlacement) :
    GraphicsUpdate :=
  let current := currentSources placements
  let removed := (cache.sources.entries.filter fun e =>
    e.1 ∉ current && e.1.isPaneLayer).map (·.2)
  let sources := cache.sources.retain fun source _ => source ∈ current
  removed.dedup.foldl dropRemovedLayerImage ⟨{ cache with sources := sources }, ∅, []⟩

/-- The keys that are current once the placements of an image are dropped. -/
def GraphicsUpdate.currentWithout (u : GraphicsUpdate) (hostId : UInt32) :
    Finset (UInt32 × UInt32) :=
  u.currentPlacements.filter fun key => ¬(key.1 = hostId ∧ key ∈ u.cache.placements)

/-- Uploads the image of a placement where the host does not have it. -/
def ensureImage (u : GraphicsUpdate) (p : HostPlacement) (formatCode hostId : UInt32) :
    GraphicsUpdate × Bool :=
  let signature := imageSignature p
  let upload (u : GraphicsUpdate) : GraphicsUpdate × Bool :=
    match encodeUploadImage p formatCode hostId with
    | none => (u, false)
    | some command =>
      ({ u with
        cache := { u.cache with images := u.cache.images.insert hostId signature }
        commands := u.commands ++ [command] }, true)
  match u.cache.images.lookup hostId with
  | some existing =>
    if existing = signature then (u, true)
    else
      upload
        { cache := u.cache.withoutPlacementsOf hostId
          currentPlacements := u.currentWithout hostId
          commands := u.commands ++ [.deleteImage hostId] }
  | none => upload u

/-- The source now has this host image; the one it had before is deleted when no other source has
it. -/
def releaseSupersededSourceImage (u : GraphicsUpdate) (source : HostSourceKey)
    (hostId : UInt32) : GraphicsUpdate :=
  let cache := { u.cache with sources := u.cache.sources.insert source hostId }
  match u.cache.sources.lookup source with
  | none => { u with cache := cache }
  | some previous =>
    if previous = hostId ∨ previous ∈ cache.sources.values then { u with cache := cache }
    else
      { cache := cache.withoutImage previous
        currentPlacements := u.currentWithout previous
        commands := u.commands ++ [.deleteImage previous] }

def displayPlacement (u : GraphicsUpdate) (viewChanged : Bool) (clipped : ClippedPlacement)
    (hostId placementId : UInt32) (signature : PlacementSignature) : GraphicsUpdate :=
  if !viewChanged && u.cache.placements.lookup (hostId, placementId) = some signature then u
  else
    { u with
      cache := { u.cache with
        placements := u.cache.placements.insert (hostId, placementId) signature }
      commands := u.commands ++ [.display hostId placementId clipped signature.z] }

section
variable (hash : List UInt8 → UInt64)

/-- The body of the loop over the placements. -/
def encodePlacement (viewChanged : Bool) (u : GraphicsUpdate) (p : HostPlacement) :
    GraphicsUpdate :=
  match clippedPlacement p with
  | none => u
  | some (clipped, formatCode) =>
    let hostId := hostImageId hash p.paneId p.placement
    let placementId := hostPlacementId hash p.sourceKey p.placement
    let signature := placementSignature clipped p.placement.z p.scrollbackOffset
    let u := { u with currentPlacements := insert (hostId, placementId) u.currentPlacements }
    match ensureImage u p formatCode hostId with
    | (u, false) => u
    | (u, true) =>
      let u := releaseSupersededSourceImage u p.sourceKey hostId
      displayPlacement u viewChanged clipped hostId placementId signature

def deleteStalePlacement (u : GraphicsUpdate) (key : UInt32 × UInt32) : GraphicsUpdate :=
  { u with
    cache := { u.cache with placements := u.cache.placements.erase key }
    commands := u.commands ++ [.deletePlacement key.1 key.2] }

/-- The placements shown before that are not current any more. -/
def GraphicsUpdate.stalePlacements (u : GraphicsUpdate) : List (UInt32 × UInt32) :=
  u.cache.placements.keys.filter fun key => key ∉ u.currentPlacements

def encodeGraphicsUpdate (placements : List HostPlacement) (viewChanged : Bool)
    (cache : HostGraphicsCache) : HostGraphicsCache × List GraphicsCommand :=
  let u := placements.foldl (encodePlacement hash viewChanged) (pruneSources cache placements)
  let u := u.stalePlacements.foldl deleteStalePlacement u
  (u.cache, u.commands)

end

def clearBytes (cache : HostGraphicsCache) : HostGraphicsCache × List GraphicsCommand :=
  (.default, cache.images.keys.map .deleteImage)

/-! ### The host terminal -/

structure HostImage where
  formatCode : UInt32
  width : UInt32
  height : UInt32
  data : List UInt8
  deriving DecidableEq

structure KittyHost where
  images : UInt32 → Option HostImage
  placements : UInt32 × UInt32 → Option (ClippedPlacement × Int32)

def KittyHost.empty : KittyHost := ⟨fun _ => none, fun _ => none⟩

def KittyHost.withoutImage (host : KittyHost) (id : UInt32) : KittyHost where
  images := Function.update host.images id none
  placements := fun key => if key.1 = id then none else host.placements key

/-- An image takes the place of the one with its id; a placement needs its image. -/
def KittyHost.exec (host : KittyHost) : GraphicsCommand → KittyHost
  | .transmit id formatCode width height data =>
    let cleared := host.withoutImage id
    { cleared with
      images := Function.update cleared.images id (some ⟨formatCode, width, height, data⟩) }
  | .display id placementId clipped z =>
    if (host.images id).isSome then
      { host with
        placements := Function.update host.placements (id, placementId) (some (clipped, z)) }
    else
      host
  | .deleteImage id => host.withoutImage id
  | .deletePlacement id placementId =>
    { host with placements := Function.update host.placements (id, placementId) none }

def KittyHost.execAll (host : KittyHost) (commands : List GraphicsCommand) : KittyHost :=
  commands.foldl KittyHost.exec host

/-! ### Runs -/

inductive GraphicsCall
  | update (placements : List HostPlacement) (viewChanged : Bool)
  | clear

def GraphicsCall.apply (hash : List UInt8 → UInt64) (cache : HostGraphicsCache) :
    GraphicsCall → HostGraphicsCache × List GraphicsCommand
  | .update placements viewChanged => encodeGraphicsUpdate hash placements viewChanged cache
  | .clear => clearBytes cache

/-! ### The hasher of the standard library -/

/-- The state of SipHash-1-3. -/
structure SipState where
  v0 : UInt64
  v1 : UInt64
  v2 : UInt64
  v3 : UInt64

def rotateLeft (x n : UInt64) : UInt64 := (x <<< n) ||| (x >>> (64 - n))

def SipState.round (s : SipState) : SipState :=
  let v0 := s.v0 + s.v1
  let v2 := s.v2 + s.v3
  let v1 := rotateLeft s.v1 13 ^^^ v0
  let v3 := rotateLeft s.v3 16 ^^^ v2
  let v0 := rotateLeft v0 32 + v3
  let v2 := v2 + v1
  ⟨v0, rotateLeft v1 17 ^^^ v2, rotateLeft v2 32, rotateLeft v3 21 ^^^ v0⟩

def SipState.absorb (s : SipState) (word : UInt64) : SipState :=
  let s := SipState.round { s with v3 := s.v3 ^^^ word }
  { s with v0 := s.v0 ^^^ word }

def leWord (bytes : List UInt8) : UInt64 :=
  bytes.foldr (fun b word => word * 256 + b.toUInt64) 0

/-- The words of a message; the last one ends with its length. -/
def sipWords (length : Nat) : Nat → List UInt8 → List UInt64
  | 0, rest => [leWord rest ||| (UInt64.ofNat length <<< 56)]
  | n + 1, bytes => leWord (bytes.take 8) :: sipWords length n (bytes.drop 8)

/-- `DefaultHasher`: SipHash-1-3 with zero keys. -/
def defaultHash (bytes : List UInt8) : UInt64 :=
  let start : SipState :=
    ⟨0x736f6d6570736575, 0x646f72616e646f6d, 0x6c7967656e657261, 0x7465646279746573⟩
  let s := (sipWords bytes.length (bytes.length / 8) bytes).foldl SipState.absorb start
  let s := SipState.round (SipState.round (SipState.round { s with v2 := s.v2 ^^^ 0xff }))
  s.v0 ^^^ s.v1 ^^^ s.v2 ^^^ s.v3

end Ork3.Graphics
