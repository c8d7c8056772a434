import Ork3.Model.Layout

/-!
# Layouts with any rounding

The geometry of a layout with the size of the first part of a split as a parameter, as floating
point numbers may round it.
-/

namespace Ork3.Layout

/-- The child of a split node that a step of a path leads to. -/
def Node.subtreeAt : Node → List Bool → Option Node
  | node, [] => some node
  | .pane _, _ :: _ => none
  | .split _ _ first _, false :: path => first.subtreeAt path
  | .split _ _ _ second, true :: path => second.subtreeAt path

namespace Rounded

section
variable (rectNew : UInt16 → UInt16 → UInt16 → UInt16 → Rect) (splitSize : UInt16 → ℚ → UInt16)

def splitRect (area : Rect) (direction : Direction) (ratio : ℚ) : Rect × Rect :=
  match direction with
  | .horizontal =>
    let firstW := splitSize area.width ratio
    let secondW := saturatingSub area.width firstW
    (rectNew area.x area.y firstW area.height,
      rectNew (area.x + firstW) area.y secondW area.height)
  | .vertical =>
    let firstH := splitSize area.height ratio
    let secondH := saturatingSub area.height firstH
    (rectNew area.x area.y area.width firstH,
      rectNew area.x (area.y + firstH) area.width secondH)

def collectPanes (focus : PaneId) : Node → Rect → List PaneInfo
  | .pane id, area => [⟨id, area, decide (id = focus)⟩]
  | .split direction ratio first second, area =>
    let (a, b) := splitRect rectNew splitSize area direction ratio
    collectPanes focus first a ++ collectPanes focus second b

def collectSplits : Node → Rect → List Bool → List SplitBorder
  | .pane _, _, _ => []
  | .split direction ratio first second, area, path =>
    let (a, b) := splitRect rectNew splitSize area direction ratio
    let pos := match direction with
      | .horizontal => a.x + a.width
      | .vertical => a.y + a.height
    ⟨pos, direction, ratio, area, path⟩ ::
      (collectSplits first a (path ++ [false]) ++ collectSplits second b (path ++ [true]))

def panes (l : TileLayout) (area : Rect) : List PaneInfo :=
  collectPanes rectNew splitSize l.focus l.root area

def splits (l : TileLayout) (area : Rect) : List SplitBorder :=
  collectSplits rectNew splitSize l.root area []

def targetDirection : NavDirection → Direction
  | .left | .right => .horizontal
  | .up | .down => .vertical

def resizeFocused (l : TileLayout) (nav : NavDirection) (delta : F32) (area : Rect) : TileLayout :=
  match (panes rectNew splitSize l area).find? (fun p => p.isFocused) with
  | none => l
  | some focused =>
    let splits := splits rectNew splitSize l area
    let grows := match nav with
      | .right | .down => true
      | .left | .up => false
    let best := (nearestResizeSplit splits (targetDirection nav) focused.rect nav).or
      (nearestResizeSplit splits (targetDirection nav) focused.rect (oppositeDirection nav))
    match best with
    | some split =>
      let currentRatio := (l.root.getRatioAt split.path).getD (1 / 2)
      let adj := if grows then delta else delta.neg
      (l.setRatioAt split.path (adj.addTo currentRatio)).1
    | none => l

def resizePane (l : TileLayout) (paneId : PaneId) (nav : NavDirection) (delta : F32) (area : Rect) :
    TileLayout × Bool :=
  if paneId ∉ l.paneIds then (l, false)
  else
    let before := l.root.splitRatios []
    let resized := resizeFocused rectNew splitSize { l with focus := paneId } nav delta area
    let restored := { resized with focus := l.focus }
    (restored, decide (restored.root.splitRatios [] ≠ before))

/-- The subtree that a path leads to and the rectangle that `collect_panes` gives it. -/
def areaAt : Node → Rect → List Bool → Option (Node × Rect)
  | node, area, [] => some (node, area)
  | .pane _, _, _ :: _ => none
  | .split direction ratio first _, area, false :: path =>
    areaAt first (splitRect rectNew splitSize area direction ratio).1 path
  | .split direction ratio _ second, area, true :: path =>
    areaAt second (splitRect rectNew splitSize area direction ratio).2 path

end

/-- The size of the first part with exact arithmetic. -/
def exactSize (total : UInt16) (ratio : ℚ) : UInt16 := roundToU16 (total.toNat * ratio)

section
variable (rectNew : UInt16 → UInt16 → UInt16 → UInt16 → Rect)

lemma collectPanes_exact (n : Node) (focus : PaneId) (area : Rect) :
    collectPanes rectNew exactSize focus n area = n.collectPanes rectNew focus area := by
  induction n generalizing area with
  | pane id => rfl
  | split direction ratio first second ih₁ ih₂ =>
    cases direction <;> exact congrArg₂ (· ++ ·) (ih₁ _) (ih₂ _)

lemma collectSplits_exact (n : Node) (area : Rect) (path : List Bool) :
    collectSplits rectNew exactSize n area path = n.collectSplits rectNew area path := by
  induction n generalizing area path with
  | pane id => rfl
  | split direction ratio first second ih₁ ih₂ =>
    cases direction <;> exact congrArg _ (congrArg₂ (· ++ ·) (ih₁ _ _) (ih₂ _ _))

/-- With exact arithmetic the pane is resized as before. -/
lemma resizePane_exact (l : TileLayout) (paneId : PaneId) (nav : NavDirection) (delta : F32)
    (area : Rect) :
    resizePane rectNew exactSize l paneId nav delta area =
      l.resizePane rectNew paneId nav delta area := by
  unfold resizePane TileLayout.resizePane resizeFocused TileLayout.resizeFocused panes
    TileLayout.panes splits TileLayout.splits
  simp only [collectPanes_exact, collectSplits_exact]
  cases nav <;> rfl

end

end Rounded

end Ork3.Layout
