import Mathlib

/-!
# BSP tree layout for tiling panes within a workspace

The tree operations of `layout.rs`. A ratio stored in the tree is an exact rational; a ratio or a
delta passed by a caller may also be infinite. Additions of `u16` coordinates wrap.
-/

namespace Ork3

structure PaneId where
  raw : UInt32
deriving DecidableEq, Repr

/-- The reserved id of the node that stands in for a root being rebuilt. -/
def PaneId.placeholder : PaneId := ⟨0⟩

namespace Layout

/-- The ordered numbers an `f32` argument ranges over. -/
inductive F32 where
  | negInf
  | finite (q : ℚ)
  | posInf
deriving DecidableEq

namespace F32

def isFinite : F32 → Bool
  | .finite _ => true
  | _ => false

def clamp (x : F32) (lo hi : ℚ) : ℚ :=
  match x with
  | .negInf => lo
  | .finite q => if q < lo then lo else if hi < q then hi else q
  | .posInf => hi

def neg : F32 → F32
  | .negInf => .posInf
  | .finite q => .finite (-q)
  | .posInf => .negInf

/-- `current + x` for a finite `current`. -/
def addTo (current : ℚ) : F32 → F32
  | .negInf => .negInf
  | .finite q => .finite (current + q)
  | .posInf => .posInf

end F32

inductive Direction where
  | horizontal
  | vertical
deriving DecidableEq, Repr

structure Rect where
  x : UInt16
  y : UInt16
  width : UInt16
  height : UInt16
deriving DecidableEq, Repr

structure PaneInfo where
  id : PaneId
  rect : Rect
  isFocused : Bool

/-- Info about a split boundary, used for resizing. -/
structure SplitBorder where
  pos : UInt16
  direction : Direction
  ratio : ℚ
  area : Rect
  path : List Bool

inductive NavDirection where
  | left
  | right
  | up
  | down
deriving DecidableEq, Repr

/-- A node in the BSP tree. -/
inductive Node where
  | pane (id : PaneId)
  | split (direction : Direction) (ratio : ℚ) (first second : Node)
deriving DecidableEq

namespace Node

def countPanes : Node → Nat
  | .pane _ => 1
  | .split _ _ first second => first.countPanes + second.countPanes

/-- The ids `collect_ids` pushes, in order. -/
def collectIds : Node → List PaneId
  | .pane id => [id]
  | .split _ _ first second => first.collectIds ++ second.collectIds

/-- The pairs `split_ratios` pushes below `path`, in order. -/
def splitRatios (path : List Bool) : Node → List (List Bool × ℚ)
  | .pane _ => []
  | .split _ ratio first second =>
    (path, ratio) :: (first.splitRatios (path ++ [false]) ++ second.splitRatios (path ++ [true]))

def swapPaneIds (a b : PaneId) : Node → Node
  | .pane id => if id = a then .pane b else if id = b then .pane a else .pane id
  | .split d r first second => .split d r (first.swapPaneIds a b) (second.swapPaneIds a b)

def splitAt (target : PaneId) (direction : Direction) (newId : PaneId) (splitRatio : ℚ) : Node → Node
  | .pane id =>
    if id = target then .split direction splitRatio (.pane id) (.pane newId) else .pane id
  | .split d r first second =>
    .split d r (first.splitAt target direction newId splitRatio)
      (second.splitAt target direction newId splitRatio)

def removePane (target : PaneId) : Node → Option Node
  | .pane id => if id = target then none else some (.pane id)
  | .split d r first second =>
    match first.removePane target, second.removePane target with
    | none, some s => some s
    | some f, none => some f
    | some f, some s => some (.split d r f s)
    | none, none => none

/-- The node after the write, and whether the path led to a split. -/
def setRatioAt (newRatio : ℚ) : Node → List Bool → Node × Bool
  | .pane id, _ => (.pane id, false)
  | .split d _ first second, [] => (.split d newRatio first second, true)
  | .split d r first second, true :: path =>
    let (second', found) := second.setRatioAt newRatio path
    (.split d r first second', found)
  | .split d r first second, false :: path =>
    let (first', found) := first.setRatioAt newRatio path
    (.split d r first' second, found)

def getRatioAt : Node → List Bool → Option ℚ
  | .pane _, _ => none
  | .split _ ratio _ _, [] => some ratio
  | .split _ _ _ second, true :: path => second.getRatioAt path
  | .split _ _ first _, false :: path => first.getRatioAt path

end Node

def validSplitRatio (ratio : F32) : ℚ :=
  if ratio.isFinite then ratio.clamp (1 / 10) (9 / 10) else 1 / 2

/-- `f32::round` (half away from zero) followed by the saturating cast to `u16`. -/
def roundToU16 (q : ℚ) : UInt16 :=
  let rounded : Int := if 0 ≤ q then ⌊q + 1 / 2⌋ else -⌊-q + 1 / 2⌋
  UInt16.ofNat (min rounded.toNat 65535)

def saturatingSub (a b : UInt16) : UInt16 :=
  if a < b then 0 else a - b

section
/- `Rect::new` belongs to the terminal library; the tree operations hold whatever it returns. -/
variable (rectNew : UInt16 → UInt16 → UInt16 → UInt16 → Rect)

def splitRect (area : Rect) (direction : Direction) (ratio : ℚ) : Rect × Rect :=
  match direction with
  | .horizontal =>
    let firstW := roundToU16 (area.width.toNat * ratio)
    let secondW := saturatingSub area.width firstW
    (rectNew area.x area.y firstW area.height,
      rectNew (area.x + firstW) area.y secondW area.height)
  | .vertical =>
    let firstH := roundToU16 (area.height.toNat * ratio)
    let secondH := saturatingSub area.height firstH
    (rectNew area.x area.y area.width firstH,
      rectNew area.x (area.y + firstH) area.width secondH)

def Node.collectPanes (focus : PaneId) : Node → Rect → List PaneInfo
  | .pane id, area => [⟨id, area, decide (id = focus)⟩]
  | .split direction ratio first second, area =>
    let (a, b) := splitRect rectNew area direction ratio
    first.collectPanes focus a ++ second.collectPanes focus b

def Node.collectSplits : Node → Rect → List Bool → List SplitBorder
  | .pane _, _, _ => []
  | .split direction ratio first second, area, path =>
    let (a, b) := splitRect rectNew area direction ratio
    let pos := match direction with
      | .horizontal => a.x + a.width
      | .vertical => a.y + a.height
    ⟨pos, direction, ratio, area, path⟩ ::
      (first.collectSplits a (path ++ [false]) ++ second.collectSplits b (path ++ [true]))

end

def rangesOverlap (aStart aLen bStart bLen : UInt16) : Bool :=
  aStart < bStart + bLen && aStart + aLen > bStart

def splitEdgeDistance (split : SplitBorder) (focused : Rect) (nav : NavDirection) : Nat :=
  match nav with
  | .left => ((split.pos.toNat : Int) - focused.x.toNat).natAbs
  | .right => ((split.pos.toNat : Int) - (focused.x + focused.width).toNat).natAbs
  | .up => ((split.pos.toNat : Int) - focused.y.toNat).natAbs
  | .down => ((split.pos.toNat : Int) - (focused.y + focused.height).toNat).natAbs

def splitOnRequestedEdge (split : SplitBorder) (focused : Rect) (nav : NavDirection) : Bool :=
  splitEdgeDistance split focused nav ≤ 1

def splitAreaOverlapsFocusedPane (split : SplitBorder) (focused : Rect) (nav : NavDirection) :
    Bool :=
  match nav with
  | .left | .right => rangesOverlap split.area.y split.area.height focused.y focused.height
  | .up | .down => rangesOverlap split.area.x split.area.width focused.x focused.width

def nearestResizeSplit (splits : List SplitBorder) (targetDir : Direction) (focused : Rect)
    (nav : NavDirection) : Option SplitBorder :=
  (((splits.filter (fun s => s.direction = targetDir)).filter
    (fun s => splitAreaOverlapsFocusedPane s focused nav)).filter
    (fun s => splitOnRequestedEdge s focused nav)).argmin
    (fun s => splitEdgeDistance s focused nav)

def oppositeDirection : NavDirection → NavDirection
  | .left => .right
  | .right => .left
  | .up => .down
  | .down => .up

/-- BSP tiling layout: a tree of splits and a focused pane. -/
structure TileLayout where
  root : Node
  focus : PaneId
deriving DecidableEq

namespace TileLayout

/-- A single pane whose id was just allocated. -/
def new (rootId : PaneId) : TileLayout := ⟨.pane rootId, rootId⟩

def paneCount (l : TileLayout) : Nat := l.root.countPanes

def paneIds (l : TileLayout) : List PaneId := l.root.collectIds

/-- `newId` is what `PaneId::alloc` returned. -/
def splitFocusedWithRatio (l : TileLayout) (newId : PaneId) (direction : Direction) (ratio : F32) :
    TileLayout × PaneId :=
  (⟨l.root.splitAt l.focus direction newId (validSplitRatio ratio), newId⟩, newId)

def insertPaneNear (l : TileLayout) (target moved : PaneId) (direction : Direction) (ratio : F32) :
    TileLayout × Bool :=
  if target = moved then (l, false)
  else if target ∉ l.paneIds ∨ moved ∈ l.paneIds then (l, false)
  else (⟨l.root.splitAt target direction moved (validSplitRatio ratio), moved⟩, true)

/-- `none` is a panic: the `unwrap` of the position or an index out of bounds. When `remove_pane`
returns `None` the root has already been replaced by the placeholder. -/
def closeFocused (l : TileLayout) : Option (TileLayout × Bool) :=
  if l.paneCount ≤ 1 then some (l, false)
  else do
    let target := l.focus
    let ids := l.paneIds
    let pos ← ids.idxOf? target
    let newFocus ← (if pos + 1 < ids.length then ids[pos + 1]? else ids[pos - 1]?)
    match l.root.removePane target with
    | some newRoot => some (⟨newRoot, newFocus⟩, true)
    | none => some (⟨.pane .placeholder, l.focus⟩, false)

def focusPane (l : TileLayout) (id : PaneId) : TileLayout :=
  if id ∈ l.paneIds then { l with focus := id } else l

def swapPanes (l : TileLayout) (first second : PaneId) : TileLayout × Bool :=
  if first = second then (l, false)
  else if first ∉ l.paneIds ∨ second ∉ l.paneIds then (l, false)
  else ({ l with root := l.root.swapPaneIds first second }, true)

def setRatioAt (l : TileLayout) (path : List Bool) (ratio : F32) : TileLayout × Bool :=
  let (root, found) := l.root.setRatioAt (ratio.clamp (1 / 10) (9 / 10)) path
  ({ l with root := root }, found)

section
variable (rectNew : UInt16 → UInt16 → UInt16 → UInt16 → Rect)

def panes (l : TileLayout) (area : Rect) : List PaneInfo :=
  l.root.collectPanes rectNew l.focus area

def splits (l : TileLayout) (area : Rect) : List SplitBorder :=
  l.root.collectSplits rectNew area []

/-- Adjust the nearest split in the given direction for the focused pane. -/
def resizeFocused (l : TileLayout) (nav : NavDirection) (delta : F32) (area : Rect) : TileLayout :=
  match (l.panes rectNew area).find? (fun p => p.isFocused) with
  | none => l
  | some focused =>
    let splits := l.splits rectNew area
    let targetDir := match nav with
      | .left | .right => Direction.horizontal
      | .up | .down => Direction.vertical
    let grows := match nav with
      | .right | .down => true
      | .left | .up => false
    let best := (nearestResizeSplit splits targetDir focused.rect nav).or
      (nearestResizeSplit splits targetDir focused.rect (oppositeDirection nav))
    match best with
    | some split =>
      let currentRatio := (l.root.getRatioAt split.path).getD (1 / 2)
      let adj := if grows then delta else delta.neg
      (l.setRatioAt split.path (adj.addTo currentRatio)).1
    | none => l

def resizePane (l : TileLayout) (paneId : PaneId) (nav : NavDirection) (delta : F32) (area : Rect) :
    TileLayout × Bool :=
  if paneId ∉ l.paneIds then (l, false)
  else
    let before := l.root.splitRatios []
    let resized := { l with focus := paneId }.resizeFocused rectNew nav delta area
    let restored := { resized with focus := l.focus }
    (restored, decide (restored.root.splitRatios [] ≠ before))

end

end TileLayout

/-! ### Directional pane navigation -/

def saturatingAdd (a b : UInt16) : UInt16 :=
  if a.toNat + b.toNat ≤ 65535 then a + b else 65535

def saturatingDouble (a : UInt16) : UInt16 :=
  if a.toNat * 2 ≤ 65535 then a * 2 else 65535

def absDiff (a b : UInt16) : UInt16 := if a < b then b - a else a - b

def rangeOverlapAmount (aStart aLen bStart bLen : UInt16) : UInt16 :=
  let aEnd := saturatingAdd aStart aLen
  let bEnd := saturatingAdd bStart bLen
  saturatingSub (min aEnd bEnd) (max aStart bStart)

def rangeCenterDistance (aStart aLen bStart bLen : UInt16) : UInt16 :=
  let aCenter := saturatingAdd (saturatingDouble aStart) aLen
  let bCenter := saturatingAdd (saturatingDouble bStart) bLen
  absDiff aCenter bCenter

/-- The pane lies on that side of the focused one and faces it. -/
def liesInDirection (fr : Rect) (direction : NavDirection) (r : Rect) : Bool :=
  match direction with
  | .left => decide (r.x + r.width ≤ fr.x) && rangesOverlap r.y r.height fr.y fr.height
  | .right => decide (fr.x + fr.width ≤ r.x) && rangesOverlap r.y r.height fr.y fr.height
  | .up => decide (r.y + r.height ≤ fr.y) && rangesOverlap r.x r.width fr.x fr.width
  | .down => decide (fr.y + fr.height ≤ r.y) && rangesOverlap r.x r.width fr.x fr.width

def edgeDistance (fr : Rect) (direction : NavDirection) (r : Rect) : UInt16 :=
  match direction with
  | .left => saturatingSub fr.x (r.x + r.width)
  | .right => saturatingSub r.x (fr.x + fr.width)
  | .up => saturatingSub fr.y (r.y + r.height)
  | .down => saturatingSub r.y (fr.y + fr.height)

def facingOverlap (fr : Rect) (direction : NavDirection) (r : Rect) : UInt16 :=
  match direction with
  | .left | .right => rangeOverlapAmount r.y r.height fr.y fr.height
  | .up | .down => rangeOverlapAmount r.x r.width fr.x fr.width

def centerDistance (fr : Rect) (direction : NavDirection) (r : Rect) : UInt16 :=
  match direction with
  | .left | .right => rangeCenterDistance r.y r.height fr.y fr.height
  | .up | .down => rangeCenterDistance r.x r.width fr.x fr.width

/-- The key that `min_by_key` minimises, with `Reverse` as the dual order. -/
def directionKey (fr : Rect) (direction : NavDirection) (e : PaneInfo × Nat) :
    ℕ ×ₗ ℕᵒᵈ ×ₗ ℕ ×ₗ ℕ :=
  toLex ((edgeDistance fr direction e.1.rect).toNat,
    toLex (OrderDual.toDual (facingOverlap fr direction e.1.rect).toNat,
      toLex ((centerDistance fr direction e.1.rect).toNat, e.2)))

/-- The nearest pane in the given direction from `focused`. -/
def findInDirection (focused : PaneInfo) (direction : NavDirection) (panes : List PaneInfo) :
    Option PaneId :=
  (((panes.zipIdx.filter fun e => e.1.id ≠ focused.id).filter
    fun e => liesInDirection focused.rect direction e.1.rect).argmin
    (directionKey focused.rect direction)).map fun e => e.1.id

end Layout

end Ork3
