import Ork3.Library.Tiling
import Ork3.Model.Layout

/-!
# Directional pane navigation

The panes of a layout tile its area, so the nearest pane on a side of a pane is one that shares a
border with it, and there is none exactly at the edge of the area.
-/

namespace Ork3.Layout

open Ork3.Library

/-- `Rect::new` of the terminal library limits the size to what edges of 16 bits allow. -/
def RectNewLimits (rectNew : UInt16 → UInt16 → UInt16 → UInt16 → Rect) : Prop :=
  ∀ x y width height,
    rectNew x y width height = ⟨x, y, min width (65535 - x), min height (65535 - y)⟩

namespace Rect

/-- The right and the bottom edge fit in 16 bits. -/
def Fits (r : Rect) : Prop :=
  r.x.toNat + r.width.toNat ≤ 65535 ∧ r.y.toNat + r.height.toNat ≤ 65535

def cells (r : Rect) : Set (ℕ × ℕ) :=
  Set.Ico r.x.toNat (r.x.toNat + r.width.toNat) ×ˢ
    Set.Ico r.y.toNat (r.y.toNat + r.height.toNat)

/-- The rectangle reaches the edge of the area on that side. -/
def TouchesEdge (area r : Rect) : NavDirection → Prop
  | .left => r.x.toNat = area.x.toNat
  | .right => r.x.toNat + r.width.toNat = area.x.toNat + area.width.toNat
  | .up => r.y.toNat = area.y.toNat
  | .down => r.y.toNat + r.height.toNat = area.y.toNat + area.height.toNat

/-- How long the rectangles run beside each other. -/
def borderLength (direction : NavDirection) (r q : Rect) : ℕ :=
  match direction with
  | .left | .right => min (r.y.toNat + r.height.toNat) (q.y.toNat + q.height.toNat) -
      max r.y.toNat q.y.toNat
  | .up | .down => min (r.x.toNat + r.width.toNat) (q.x.toNat + q.width.toNat) -
      max r.x.toNat q.x.toNat

/-- The second rectangle meets the first one on that side. -/
def Meets (r q : Rect) : NavDirection → Prop
  | .left => q.x.toNat + q.width.toNat = r.x.toNat
  | .right => q.x.toNat = r.x.toNat + r.width.toNat
  | .up => q.y.toNat + q.height.toNat = r.y.toNat
  | .down => q.y.toNat = r.y.toNat + r.height.toNat

def SharesBorder (direction : NavDirection) (r q : Rect) : Prop :=
  r.Meets q direction ∧ 0 < borderLength direction r q

end Rect

section
variable {rectNew : UInt16 → UInt16 → UInt16 → UInt16 → Rect} {area a b : Rect}
  {direction : Direction} {ratio : ℚ} {focus : PaneId}

/-! ### A split -/

lemma saturatingSub_toNat (a b : UInt16) : (saturatingSub a b).toNat = a.toNat - b.toNat := by
  unfold saturatingSub
  by_cases hlt : a < b
  · have hlt' := UInt16.lt_iff_toNat_lt.mp hlt
    rw [if_pos hlt]
    change 0 = _
    omega
  · have hle := UInt16.not_lt.mp hlt
    rw [if_neg hlt, UInt16.toNat_sub_of_le a b hle]

lemma min_toNat (a b : UInt16) : (min a b).toNat = min a.toNat b.toNat := by
  change (if a ≤ b then a else b).toNat = _
  by_cases hle : a ≤ b
  · have hle' := UInt16.le_iff_toNat_le.mp hle
    rw [if_pos hle]
    omega
  · have hle' : ¬a.toNat ≤ b.toNat := fun h => hle (UInt16.le_iff_toNat_le.mpr h)
    rw [if_neg hle]
    omega

lemma max_toNat (a b : UInt16) : (max a b).toNat = max a.toNat b.toNat := by
  change (if a ≤ b then b else a).toNat = _
  by_cases hle : a ≤ b
  · have hle' := UInt16.le_iff_toNat_le.mp hle
    rw [if_pos hle]
    omega
  · have hle' : ¬a.toNat ≤ b.toNat := fun h => hle (UInt16.le_iff_toNat_le.mpr h)
    rw [if_neg hle]
    omega

lemma limit_toNat (x : UInt16) : ((65535 : UInt16) - x).toNat = 65535 - x.toNat := by
  have hle : x ≤ 65535 := by
    rw [UInt16.le_iff_toNat_le]
    have := x.toNat_lt
    change x.toNat ≤ 65535
    omega
  rw [UInt16.toNat_sub_of_le _ _ hle]
  rfl

lemma add_toNat {a b : UInt16} (h : a.toNat + b.toNat ≤ 65535) :
    (a + b).toNat = a.toNat + b.toNat := by
  rw [UInt16.toNat_add]
  omega

/-- What `split_rect` returns, in numbers. -/
structure SplitInto (area : Rect) (direction : Direction) (a b : Rect) : Prop where
  horizontal : direction = .horizontal → a.x.toNat = area.x.toNat ∧ a.y.toNat = area.y.toNat ∧
    b.y.toNat = area.y.toNat ∧ a.height.toNat = area.height.toNat ∧
    b.height.toNat = area.height.toNat ∧
    ((a.width.toNat + b.width.toNat = area.width.toNat ∧
      b.x.toNat = area.x.toNat + a.width.toNat) ∨ b.width.toNat = 0)
  vertical : direction = .vertical → a.x.toNat = area.x.toNat ∧ a.y.toNat = area.y.toNat ∧
    b.x.toNat = area.x.toNat ∧ a.width.toNat = area.width.toNat ∧
    b.width.toNat = area.width.toNat ∧
    ((a.height.toNat + b.height.toNat = area.height.toNat ∧
      b.y.toNat = area.y.toNat + a.height.toNat) ∨ b.height.toNat = 0)

lemma splitInto_splitRect (hnew : RectNewLimits rectNew) (harea : area.Fits)
    (direction : Direction) (ratio : ℚ) :
    SplitInto area direction (splitRect rectNew area direction ratio).1
      (splitRect rectNew area direction ratio).2 := by
  obtain ⟨hx, hy⟩ := harea
  refine ⟨?_, ?_⟩
  · rintro rfl
    unfold splitRect
    dsimp only
    rw [hnew, hnew]
    dsimp only
    generalize roundToU16 (area.width.toNat * ratio) = first
    simp only [min_toNat, limit_toNat, saturatingSub_toNat]
    refine ⟨trivial, trivial, trivial, by omega, by omega, ?_⟩
    by_cases hfirst : first.toNat ≤ area.width.toNat
    · have hsum : (area.x + first).toNat = area.x.toNat + first.toNat := add_toNat (by omega)
      rw [hsum]
      left
      omega
    · right
      omega
  · rintro rfl
    unfold splitRect
    dsimp only
    rw [hnew, hnew]
    dsimp only
    generalize roundToU16 (area.height.toNat * ratio) = first
    simp only [min_toNat, limit_toNat, saturatingSub_toNat]
    refine ⟨trivial, trivial, trivial, by omega, by omega, ?_⟩
    by_cases hfirst : first.toNat ≤ area.height.toNat
    · have hsum : (area.y + first).toNat = area.y.toNat + first.toNat := add_toNat (by omega)
      rw [hsum]
      left
      omega
    · right
      omega

lemma fits_rectNew (hnew : RectNewLimits rectNew) (x y width height : UInt16) :
    (rectNew x y width height).Fits := by
  have hx := x.toNat_lt
  have hy := y.toNat_lt
  rw [hnew]
  unfold Rect.Fits
  simp only [min_toNat, limit_toNat]
  omega

lemma fits_splitRect (hnew : RectNewLimits rectNew) (area : Rect) (direction : Direction)
    (ratio : ℚ) : (splitRect rectNew area direction ratio).1.Fits ∧
      (splitRect rectNew area direction ratio).2.Fits := by
  cases direction <;> exact ⟨fits_rectNew hnew _ _ _ _, fits_rectNew hnew _ _ _ _⟩

/-! ### The panes tile the area -/

lemma mem_cells {r : Rect} {x y : ℕ} : (x, y) ∈ r.cells ↔
    (r.x.toNat ≤ x ∧ x < r.x.toNat + r.width.toNat) ∧
      r.y.toNat ≤ y ∧ y < r.y.toNat + r.height.toNat := by
  simp [Rect.cells]

lemma Node.collectPanes_split (n m : Node) (direction : Direction) (ratio : ℚ) (focus : PaneId)
    (area : Rect) : (Node.split direction ratio n m).collectPanes rectNew focus area =
      n.collectPanes rectNew focus (splitRect rectNew area direction ratio).1 ++
        m.collectPanes rectNew focus (splitRect rectNew area direction ratio).2 := rfl

lemma Node.map_id_collectPanes (n : Node) (focus : PaneId) (area : Rect) :
    (n.collectPanes rectNew focus area).map PaneInfo.id = n.collectIds := by
  induction n generalizing area with
  | pane id => rfl
  | split direction ratio first second ih₁ ih₂ =>
    rw [Node.collectPanes_split, List.map_append, ih₁, ih₂]
    rfl

/-- An area of no width or no height is split into such areas. -/
lemma Node.empty_of_empty (hnew : RectNewLimits rectNew) (n : Node) (focus : PaneId)
    (harea : area.Fits) (h : area.width.toNat = 0 ∨ area.height.toNat = 0) :
    ∃ p ∈ n.collectPanes rectNew focus area, p.rect.width.toNat = 0 ∨ p.rect.height.toNat = 0 := by
  induction n generalizing area with
  | pane id => exact ⟨_, List.mem_singleton_self _, h⟩
  | split direction ratio first second ih₁ ih₂ =>
    have hsplit := splitInto_splitRect hnew harea direction ratio
    have hfits := fits_splitRect hnew area direction ratio
    rw [Node.collectPanes_split]
    generalize splitRect rectNew area direction ratio = ab at hsplit hfits ⊢
    have hempty : (ab.1.width.toNat = 0 ∨ ab.1.height.toNat = 0) ∨
        (ab.2.width.toNat = 0 ∨ ab.2.height.toNat = 0) := by
      cases direction with
      | horizontal =>
        have := hsplit.horizontal rfl
        omega
      | vertical =>
        have := hsplit.vertical rfl
        omega
    rcases hempty with hfirst | hsecond
    · obtain ⟨p, hp, hzero⟩ := ih₁ hfits.1 hfirst
      exact ⟨p, List.mem_append_left _ hp, hzero⟩
    · obtain ⟨p, hp, hzero⟩ := ih₂ hfits.2 hsecond
      exact ⟨p, List.mem_append_right _ hp, hzero⟩

/-- The parts of a split whose second part is not empty. -/
lemma SplitInto.cells (h : SplitInto area direction a b)
    (hb : b.width.toNat ≠ 0 ∧ b.height.toNat ≠ 0) :
    Disjoint a.cells b.cells ∧ area.cells = a.cells ∪ b.cells := by
  have hcells : ∀ x y : ℕ, ((x, y) ∈ a.cells → (x, y) ∉ b.cells) ∧
      ((x, y) ∈ area.cells ↔ (x, y) ∈ a.cells ∨ (x, y) ∈ b.cells) := by
    intro x y
    rw [mem_cells, mem_cells, mem_cells]
    cases direction with
    | horizontal =>
      obtain ⟨hax, hay, hby, hah, hbh, hsum | hzero⟩ := h.horizontal rfl
      · omega
      · exact absurd hzero hb.1
    | vertical =>
      obtain ⟨hax, hay, hbx, haw, hbw, hsum | hzero⟩ := h.vertical rfl
      · omega
      · exact absurd hzero hb.2
  refine ⟨?_, ?_⟩
  · rw [Set.disjoint_left]
    rintro ⟨x, y⟩ ha
    exact (hcells x y).1 ha
  · ext ⟨x, y⟩
    exact (hcells x y).2

/-- Where no pane is empty the panes tile the area. -/
lemma Node.tiles_collectPanes (hnew : RectNewLimits rectNew) (n : Node) (harea : area.Fits)
    (hpos : ∀ p ∈ n.collectPanes rectNew focus area,
      p.rect.width.toNat ≠ 0 ∧ p.rect.height.toNat ≠ 0) :
    Tiles (fun p : PaneInfo => p.rect.cells) (n.collectPanes rectNew focus area) area.cells ∧
      ∀ p ∈ n.collectPanes rectNew focus area, p.rect.Fits := by
  induction n generalizing area with
  | pane id =>
    refine ⟨@tiles_singleton _ _ (fun p : PaneInfo => p.rect.cells) _, fun p hp => ?_⟩
    rw [List.mem_singleton.mp hp]
    exact harea
  | split direction ratio first second ih₁ ih₂ =>
    have hsplit := splitInto_splitRect hnew harea direction ratio
    have hfits := fits_splitRect hnew area direction ratio
    rw [Node.collectPanes_split] at hpos ⊢
    generalize splitRect rectNew area direction ratio = ab at hsplit hfits hpos ⊢
    have hsecond : ab.2.width.toNat ≠ 0 ∧ ab.2.height.toNat ≠ 0 := by
      by_contra hempty
      rw [← not_or, not_not] at hempty
      obtain ⟨p, hp, hzero⟩ := second.empty_of_empty hnew focus hfits.2 hempty
      have := hpos p (List.mem_append_right _ hp)
      omega
    obtain ⟨hdisjoint, hunion⟩ := hsplit.cells hsecond
    obtain ⟨htiles₁, hfits₁⟩ := ih₁ hfits.1 fun p hp => hpos p (List.mem_append_left _ hp)
    obtain ⟨htiles₂, hfits₂⟩ := ih₂ hfits.2 fun p hp => hpos p (List.mem_append_right _ hp)
    rw [hunion]
    refine ⟨htiles₁.append htiles₂ hdisjoint, fun p hp => ?_⟩
    rcases List.mem_append.mp hp with hp | hp
    · exact hfits₁ p hp
    · exact hfits₂ p hp

end

/-! ### The neighbours of a pane -/

section
variable {panes : List PaneInfo} {area : Rect} {p q : PaneInfo} {direction : NavDirection}

/-- Panes that tile an area, none of them empty. -/
structure TiledPanes (panes : List PaneInfo) (area : Rect) : Prop where
  tiles : Tiles (fun p : PaneInfo => p.rect.cells) panes area.cells
  fits : ∀ p ∈ panes, p.rect.Fits
  pos : ∀ p ∈ panes, p.rect.width.toNat ≠ 0 ∧ p.rect.height.toNat ≠ 0
  ids : (panes.map PaneInfo.id).Nodup

lemma TiledPanes.corner_mem (h : TiledPanes panes area) (hp : p ∈ panes) :
    (p.rect.x.toNat, p.rect.y.toNat) ∈ p.rect.cells := by
  have hpos := h.pos p hp
  rw [mem_cells]
  omega

/-- A pane lies within the area. -/
lemma TiledPanes.bounds (h : TiledPanes panes area) (hp : p ∈ panes) :
    area.x.toNat ≤ p.rect.x.toNat ∧ area.y.toNat ≤ p.rect.y.toNat ∧
      p.rect.x.toNat + p.rect.width.toNat ≤ area.x.toNat + area.width.toNat ∧
      p.rect.y.toNat + p.rect.height.toNat ≤ area.y.toNat + area.height.toNat := by
  have hpos := h.pos p hp
  have hfirst := h.tiles.subset hp (h.corner_mem hp)
  have hlast : (p.rect.x.toNat + p.rect.width.toNat - 1,
      p.rect.y.toNat + p.rect.height.toNat - 1) ∈ p.rect.cells := by
    rw [mem_cells]
    omega
  have hlast' := h.tiles.subset hp hlast
  rw [mem_cells] at hfirst hlast'
  omega

/-- A pane that does not touch the edge of the area has a neighbour on that side. -/
lemma TiledPanes.exists_neighbour (h : TiledPanes panes area) (hp : p ∈ panes)
    (hedge : ¬area.TouchesEdge p.rect direction) :
    ∃ q ∈ panes, Rect.SharesBorder direction p.rect q.rect := by
  have hpos := h.pos p hp
  have hbounds := h.bounds hp
  have hcorner := h.corner_mem hp
  have hother (x y x' y' : ℕ) (hxy : (x, y) ∈ p.rect.cells) (harea : (x', y') ∈ area.cells)
      (hout : (x', y') ∉ p.rect.cells) :
      ∃ q ∈ panes, (x', y') ∈ q.rect.cells ∧ (x, y) ∉ q.rect.cells :=
    h.tiles.exists_other hp hxy harea hout
  simp only [mem_cells] at hother
  -- the cell beside the corner of the pane, across the border
  cases direction with
  | left =>
    change ¬p.rect.x.toNat = area.x.toNat at hedge
    obtain ⟨q, hq, hin, hout⟩ := hother p.rect.x.toNat p.rect.y.toNat (p.rect.x.toNat - 1)
      p.rect.y.toNat (by omega) (by omega) (by omega)
    refine ⟨q, hq, ?_, ?_⟩
    · change q.rect.x.toNat + q.rect.width.toNat = p.rect.x.toNat
      omega
    · unfold Rect.borderLength
      dsimp only
      omega
  | right =>
    change ¬p.rect.x.toNat + p.rect.width.toNat = area.x.toNat + area.width.toNat at hedge
    obtain ⟨q, hq, hin, hout⟩ := hother (p.rect.x.toNat + p.rect.width.toNat - 1) p.rect.y.toNat
      (p.rect.x.toNat + p.rect.width.toNat) p.rect.y.toNat (by omega) (by omega) (by omega)
    refine ⟨q, hq, ?_, ?_⟩
    · change q.rect.x.toNat = p.rect.x.toNat + p.rect.width.toNat
      omega
    · unfold Rect.borderLength
      dsimp only
      omega
  | up =>
    change ¬p.rect.y.toNat = area.y.toNat at hedge
    obtain ⟨q, hq, hin, hout⟩ := hother p.rect.x.toNat p.rect.y.toNat p.rect.x.toNat
      (p.rect.y.toNat - 1) (by omega) (by omega) (by omega)
    refine ⟨q, hq, ?_, ?_⟩
    · change q.rect.y.toNat + q.rect.height.toNat = p.rect.y.toNat
      omega
    · unfold Rect.borderLength
      dsimp only
      omega
  | down =>
    change ¬p.rect.y.toNat + p.rect.height.toNat = area.y.toNat + area.height.toNat at hedge
    obtain ⟨q, hq, hin, hout⟩ := hother p.rect.x.toNat (p.rect.y.toNat + p.rect.height.toNat - 1)
      p.rect.x.toNat (p.rect.y.toNat + p.rect.height.toNat) (by omega) (by omega) (by omega)
    refine ⟨q, hq, ?_, ?_⟩
    · change q.rect.y.toNat = p.rect.y.toNat + p.rect.height.toNat
      omega
    · unfold Rect.borderLength
      dsimp only
      omega

/-! ### The candidates -/

lemma rangesOverlap_iff {aStart aLen bStart bLen : UInt16}
    (ha : aStart.toNat + aLen.toNat ≤ 65535) (hb : bStart.toNat + bLen.toNat ≤ 65535) :
    rangesOverlap aStart aLen bStart bLen = true ↔
      aStart.toNat < bStart.toNat + bLen.toNat ∧ bStart.toNat < aStart.toNat + aLen.toNat := by
  unfold rangesOverlap
  rw [Bool.and_eq_true, decide_eq_true_eq, decide_eq_true_eq, gt_iff_lt, UInt16.lt_iff_toNat_lt,
    UInt16.lt_iff_toNat_lt, add_toNat ha, add_toNat hb]

lemma saturatingAdd_toNat (a b : UInt16) :
    (saturatingAdd a b).toNat = min (a.toNat + b.toNat) 65535 := by
  unfold saturatingAdd
  split
  · next h =>
    rw [add_toNat h]
    omega
  · change 65535 = _
    omega

lemma rangeOverlapAmount_toNat {aStart aLen bStart bLen : UInt16}
    (ha : aStart.toNat + aLen.toNat ≤ 65535) (hb : bStart.toNat + bLen.toNat ≤ 65535) :
    (rangeOverlapAmount aStart aLen bStart bLen).toNat =
      min (aStart.toNat + aLen.toNat) (bStart.toNat + bLen.toNat) -
        max aStart.toNat bStart.toNat := by
  unfold rangeOverlapAmount
  dsimp only
  rw [saturatingSub_toNat, min_toNat, max_toNat, saturatingAdd_toNat, saturatingAdd_toNat]
  omega

lemma facingOverlap_toNat {fr r : Rect} (hfr : fr.Fits) (hr : r.Fits) (direction : NavDirection) :
    (facingOverlap fr direction r).toNat = Rect.borderLength direction fr r := by
  have hx := rangeOverlapAmount_toNat hr.1 hfr.1
  have hy := rangeOverlapAmount_toNat hr.2 hfr.2
  cases direction with
  | left | right =>
    change (rangeOverlapAmount r.y r.height fr.y fr.height).toNat = _
    rw [hy, Rect.borderLength, min_comm, max_comm]
  | up | down =>
    change (rangeOverlapAmount r.x r.width fr.x fr.width).toNat = _
    rw [hx, Rect.borderLength, min_comm, max_comm]

lemma positive_overlap_iff (a b : ℕ) {la lb : ℕ} (hla : la ≠ 0) (hlb : lb ≠ 0) :
    0 < min (b + lb) (a + la) - max b a ↔ a < b + lb ∧ b < a + la := by
  omega

/-- A rectangle shares a border with a pane if it lies on that side at distance zero. -/
lemma sharesBorder_iff {fr r : Rect} (hfr : fr.Fits) (hr : r.Fits)
    (hfrpos : fr.width.toNat ≠ 0 ∧ fr.height.toNat ≠ 0)
    (hrpos : r.width.toNat ≠ 0 ∧ r.height.toNat ≠ 0) (direction : NavDirection) :
    Rect.SharesBorder direction fr r ↔
      liesInDirection fr direction r = true ∧ (edgeDistance fr direction r).toNat = 0 := by
  have hox := rangesOverlap_iff hr.1 hfr.1
  have hoy := rangesOverlap_iff hr.2 hfr.2
  have hx := positive_overlap_iff r.x.toNat fr.x.toNat hrpos.1 hfrpos.1
  have hy := positive_overlap_iff r.y.toNat fr.y.toNat hrpos.2 hfrpos.2
  unfold Rect.SharesBorder liesInDirection edgeDistance
  cases direction with
  | left =>
    have hadd := add_toNat hr.1
    have hlength : 0 < Rect.borderLength .left fr r ↔ _ := hy
    change r.x.toNat + r.width.toNat = fr.x.toNat ∧ 0 < _ ↔ _
    dsimp only
    rw [hlength, Bool.and_eq_true, hoy, decide_eq_true_eq, saturatingSub_toNat,
      UInt16.le_iff_toNat_le, hadd]
    omega
  | right =>
    have hadd := add_toNat hfr.1
    have hlength : 0 < Rect.borderLength .right fr r ↔ _ := hy
    change r.x.toNat = fr.x.toNat + fr.width.toNat ∧ 0 < _ ↔ _
    dsimp only
    rw [hlength, Bool.and_eq_true, hoy, decide_eq_true_eq, saturatingSub_toNat,
      UInt16.le_iff_toNat_le, hadd]
    omega
  | up =>
    have hadd := add_toNat hr.2
    have hlength : 0 < Rect.borderLength .up fr r ↔ _ := hx
    change r.y.toNat + r.height.toNat = fr.y.toNat ∧ 0 < _ ↔ _
    dsimp only
    rw [hlength, Bool.and_eq_true, hox, decide_eq_true_eq, saturatingSub_toNat,
      UInt16.le_iff_toNat_le, hadd]
    omega
  | down =>
    have hadd := add_toNat hfr.2
    have hlength : 0 < Rect.borderLength .down fr r ↔ _ := hx
    change r.y.toNat = fr.y.toNat + fr.height.toNat ∧ 0 < _ ↔ _
    dsimp only
    rw [hlength, Bool.and_eq_true, hox, decide_eq_true_eq, saturatingSub_toNat,
      UInt16.le_iff_toNat_le, hadd]
    omega

/-- At the edge of the area nothing lies further out. -/
lemma TiledPanes.not_liesInDirection (h : TiledPanes panes area) (hp : p ∈ panes) (hq : q ∈ panes)
    (hedge : area.TouchesEdge p.rect direction) :
    liesInDirection p.rect direction q.rect = false := by
  have hbounds := h.bounds hq
  have hpos := h.pos q hq
  obtain ⟨hpx, hpy⟩ := h.fits p hp
  obtain ⟨hqx, hqy⟩ := h.fits q hq
  cases direction with
  | left =>
    change p.rect.x.toNat = area.x.toNat at hedge
    unfold liesInDirection
    dsimp only
    rw [decide_eq_false, Bool.false_and]
    rw [UInt16.le_iff_toNat_le, add_toNat hqx]
    omega
  | right =>
    change p.rect.x.toNat + p.rect.width.toNat = area.x.toNat + area.width.toNat at hedge
    unfold liesInDirection
    dsimp only
    rw [decide_eq_false, Bool.false_and]
    rw [UInt16.le_iff_toNat_le, add_toNat hpx]
    omega
  | up =>
    change p.rect.y.toNat = area.y.toNat at hedge
    unfold liesInDirection
    dsimp only
    rw [decide_eq_false, Bool.false_and]
    rw [UInt16.le_iff_toNat_le, add_toNat hqy]
    omega
  | down =>
    change p.rect.y.toNat + p.rect.height.toNat = area.y.toNat + area.height.toNat at hedge
    unfold liesInDirection
    dsimp only
    rw [decide_eq_false, Bool.false_and]
    rw [UInt16.le_iff_toNat_le, add_toNat hpy]
    omega

/-! ### The nearest pane -/

/-- The panes among which the nearest one is chosen. -/
def candidates (p : PaneInfo) (direction : NavDirection) (panes : List PaneInfo) :
    List (PaneInfo × ℕ) :=
  (panes.zipIdx.filter fun e => e.1.id ≠ p.id).filter
    fun e => liesInDirection p.rect direction e.1.rect

lemma mem_candidates {e : PaneInfo × ℕ} : e ∈ candidates p direction panes ↔
    e ∈ panes.zipIdx ∧ e.1.id ≠ p.id ∧ liesInDirection p.rect direction e.1.rect = true := by
  unfold candidates
  rw [List.mem_filter, List.mem_filter, decide_eq_true_eq, and_assoc]

lemma mem_of_mem_candidates {e : PaneInfo × ℕ} (he : e ∈ candidates p direction panes) :
    e.1 ∈ panes :=
  List.fst_mem_of_mem_zipIdx (mem_candidates.mp he).1

lemma TiledPanes.sharesBorder_iff (h : TiledPanes panes area) (hp : p ∈ panes) (hq : q ∈ panes) :
    Rect.SharesBorder direction p.rect q.rect ↔
      liesInDirection p.rect direction q.rect = true ∧
        (edgeDistance p.rect direction q.rect).toNat = 0 :=
  Layout.sharesBorder_iff (h.fits p hp) (h.fits q hq) (h.pos p hp) (h.pos q hq) direction

/-- A pane does not meet itself. -/
lemma TiledPanes.id_ne (h : TiledPanes panes area) (hp : p ∈ panes) (hq : q ∈ panes)
    (hshares : Rect.SharesBorder direction p.rect q.rect) : q.id ≠ p.id := by
  intro hid
  have heq : q = p := List.inj_on_of_nodup_map h.ids hq hp hid
  have hpos := h.pos p hp
  have hmeets : p.rect.Meets p.rect direction := heq ▸ hshares.1
  cases direction with
  | left =>
    change p.rect.x.toNat + p.rect.width.toNat = p.rect.x.toNat at hmeets
    omega
  | right =>
    change p.rect.x.toNat = p.rect.x.toNat + p.rect.width.toNat at hmeets
    omega
  | up =>
    change p.rect.y.toNat + p.rect.height.toNat = p.rect.y.toNat at hmeets
    omega
  | down =>
    change p.rect.y.toNat = p.rect.y.toNat + p.rect.height.toNat at hmeets
    omega

/-- A pane that shares the border is a candidate. -/
lemma TiledPanes.candidate_of_sharesBorder (h : TiledPanes panes area) (hp : p ∈ panes)
    (hq : q ∈ panes) (hshares : Rect.SharesBorder direction p.rect q.rect) :
    ∃ i, (q, i) ∈ candidates p direction panes := by
  obtain ⟨i, hi, rfl⟩ := List.getElem_of_mem hq
  refine ⟨i, mem_candidates.mpr ⟨?_, h.id_ne hp hq hshares, ?_⟩⟩
  · rw [List.mem_zipIdx_iff_getElem?]
    exact List.getElem?_eq_getElem hi
  · exact ((h.sharesBorder_iff hp hq).mp hshares).1

lemma directionKey_le_iff {fr : Rect} {e e' : PaneInfo × ℕ} :
    directionKey fr direction e ≤ directionKey fr direction e' →
      (edgeDistance fr direction e.1.rect).toNat < (edgeDistance fr direction e'.1.rect).toNat ∨
        (edgeDistance fr direction e.1.rect).toNat = (edgeDistance fr direction e'.1.rect).toNat ∧
          (facingOverlap fr direction e'.1.rect).toNat ≤
            (facingOverlap fr direction e.1.rect).toNat := by
  intro hle
  unfold directionKey at hle
  rw [Prod.Lex.toLex_le_toLex] at hle
  rcases hle with hlt | ⟨heq, hle⟩
  · exact Or.inl hlt
  · right
    refine ⟨heq, ?_⟩
    dsimp only at hle
    rw [Prod.Lex.toLex_le_toLex] at hle
    rcases hle with hlt | ⟨heq, -⟩
    · exact le_of_lt (OrderDual.toDual_lt_toDual.mp hlt)
    · exact le_of_eq (OrderDual.toDual_inj.mp heq).symm

/-- The nearest candidate shares the border, and no pane shares a longer one. -/
lemma TiledPanes.nearest (h : TiledPanes panes area) (hp : p ∈ panes) {e : PaneInfo × ℕ}
    (he : e ∈ (candidates p direction panes).argmin (directionKey p.rect direction)) :
    Rect.SharesBorder direction p.rect e.1.rect ∧
      ∀ q ∈ panes, Rect.SharesBorder direction p.rect q.rect →
        Rect.borderLength direction p.rect q.rect ≤
          Rect.borderLength direction p.rect e.1.rect := by
  have hmem := List.argmin_mem he
  have hpane := mem_of_mem_candidates hmem
  have hedge : ¬area.TouchesEdge p.rect direction := by
    intro hedge
    have hfalse := h.not_liesInDirection hp hpane hedge
    rw [(mem_candidates.mp hmem).2.2] at hfalse
    exact Bool.noConfusion hfalse
  -- what a pane on the border means for the chosen one
  have hborder (q : PaneInfo) (hq : q ∈ panes)
      (hshares : Rect.SharesBorder direction p.rect q.rect) :
      (edgeDistance p.rect direction e.1.rect).toNat = 0 ∧
        Rect.borderLength direction p.rect q.rect ≤
          Rect.borderLength direction p.rect e.1.rect := by
    obtain ⟨i, hi⟩ := h.candidate_of_sharesBorder hp hq hshares
    have hzero : (edgeDistance p.rect direction q.rect).toNat = 0 :=
      ((h.sharesBorder_iff hp hq).mp hshares).2
    have hkey := directionKey_le_iff (List.le_of_mem_argmin hi he)
    rw [facingOverlap_toNat (h.fits p hp) (h.fits _ hpane),
      facingOverlap_toNat (h.fits p hp) (h.fits q hq), hzero] at hkey
    rcases hkey with hlt | ⟨heq, hle⟩
    · exact absurd hlt (Nat.not_lt_zero _)
    · exact ⟨heq, hle⟩
  obtain ⟨q₀, hq₀, hshares₀⟩ := h.exists_neighbour hp hedge
  refine ⟨?_, fun q hq hshares => (hborder q hq hshares).2⟩
  rw [h.sharesBorder_iff hp hpane]
  exact ⟨(mem_candidates.mp hmem).2.2, (hborder q₀ hq₀ hshares₀).1⟩

lemma TiledPanes.findInDirection_eq_none_iff (h : TiledPanes panes area) (hp : p ∈ panes) :
    findInDirection p direction panes = none ↔ area.TouchesEdge p.rect direction := by
  have hnone : findInDirection p direction panes = none ↔ candidates p direction panes = [] := by
    unfold findInDirection
    rw [Option.map_eq_none_iff, List.argmin_eq_none]
    rfl
  rw [hnone]
  constructor
  · intro hnil
    by_contra hedge
    obtain ⟨q, hq, hshares⟩ := h.exists_neighbour hp hedge
    obtain ⟨i, hi⟩ := h.candidate_of_sharesBorder hp hq hshares
    rw [hnil] at hi
    exact List.not_mem_nil hi
  · intro hedge
    rw [List.eq_nil_iff_forall_not_mem]
    intro e he
    have hfalse := h.not_liesInDirection hp (mem_of_mem_candidates he) hedge
    rw [(mem_candidates.mp he).2.2] at hfalse
    exact Bool.noConfusion hfalse

end

section
variable {rectNew : UInt16 → UInt16 → UInt16 → UInt16 → Rect} {area : Rect}

lemma TileLayout.tiledPanes_panes {l : TileLayout} (hnew : RectNewLimits rectNew)
    (hids : l.paneIds.Nodup) (harea : area.Fits)
    (hpos : ∀ p ∈ l.panes rectNew area, p.rect.width.toNat ≠ 0 ∧ p.rect.height.toNat ≠ 0) :
    TiledPanes (l.panes rectNew area) area := by
  obtain ⟨htiles, hfits⟩ := l.root.tiles_collectPanes hnew harea hpos
  refine ⟨htiles, hfits, hpos, ?_⟩
  change ((l.root.collectPanes rectNew l.focus area).map PaneInfo.id).Nodup
  rw [Node.map_id_collectPanes]
  exact hids

/-- The pane found in a direction is beside the focused one along the longest border, and none is
found exactly at the edge of the area. -/
theorem findInDirection_panes (hnew : RectNewLimits rectNew) (l : TileLayout)
    (hids : l.paneIds.Nodup) (harea : area.Fits)
    (hpos : ∀ p ∈ l.panes rectNew area, p.rect.width.toNat ≠ 0 ∧ p.rect.height.toNat ≠ 0)
    (p : PaneInfo) (hp : p ∈ l.panes rectNew area) (direction : NavDirection) :
    (findInDirection p direction (l.panes rectNew area) = none ↔
        area.TouchesEdge p.rect direction) ∧
      ∀ id, findInDirection p direction (l.panes rectNew area) = some id →
        ∃ q ∈ l.panes rectNew area, q.id = id ∧ Rect.SharesBorder direction p.rect q.rect ∧
          ∀ q' ∈ l.panes rectNew area, Rect.SharesBorder direction p.rect q'.rect →
            Rect.borderLength direction p.rect q'.rect ≤
              Rect.borderLength direction p.rect q.rect := by
  have htiled := TileLayout.tiledPanes_panes hnew hids harea hpos
  refine ⟨htiled.findInDirection_eq_none_iff hp, fun id hid => ?_⟩
  obtain ⟨e, he, rfl⟩ := Option.map_eq_some_iff.mp hid
  obtain ⟨hshares, hlongest⟩ := htiled.nearest hp he
  exact ⟨e.1, mem_of_mem_candidates (List.argmin_mem he), rfl, hshares, hlongest⟩

deriving instance DecidableEq for PaneInfo

/-- `Rect::new` as the terminal library documents it. -/
def limitedRect (x y width height : UInt16) : Rect :=
  ⟨x, y, min width (65535 - x), min height (65535 - y)⟩

/-- A pane on the left, two on the right. -/
def stackedLayout : TileLayout :=
  ⟨.split .horizontal (1 / 2) (.pane ⟨1⟩) (.split .vertical (1 / 3) (.pane ⟨2⟩) (.pane ⟨3⟩)), ⟨1⟩⟩

/-- Of two panes on the right the taller one is found. -/
theorem findInDirection_panes_stacked :
    findInDirection ⟨⟨1⟩, ⟨0, 0, 40, 24⟩, true⟩ .right
        (stackedLayout.panes limitedRect ⟨0, 0, 80, 24⟩) = some ⟨3⟩ ∧
      ∃ q ∈ stackedLayout.panes limitedRect ⟨0, 0, 80, 24⟩, q.id = ⟨3⟩ ∧
        Rect.SharesBorder .right ⟨0, 0, 40, 24⟩ q.rect := by
  have hfound : findInDirection ⟨⟨1⟩, ⟨0, 0, 40, 24⟩, true⟩ .right
      (stackedLayout.panes limitedRect ⟨0, 0, 80, 24⟩) = some ⟨3⟩ := by decide +kernel
  obtain ⟨q, hq, hid, hshares, -⟩ :=
    (findInDirection_panes (fun _ _ _ _ => rfl) stackedLayout (by decide)
      (show Rect.Fits ⟨0, 0, 80, 24⟩ from ⟨by decide, by decide⟩) (by decide +kernel)
      ⟨⟨1⟩, ⟨0, 0, 40, 24⟩, true⟩ (by decide +kernel) .right).2 ⟨3⟩ hfound
  exact ⟨hfound, q, hq, hid, hshares⟩

end

end Ork3.Layout
