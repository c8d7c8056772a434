import Ork3.Model.RoundedLayout
import Ork3.Proofs.PaneNavigation

/-!
# The geometry of a layout

The panes tile the area however the sizes are rounded, and the splits are the boundaries between
the parts.
-/

namespace Ork3.Layout

open Ork3.Library

namespace Rect

def Within (r area : Rect) : Prop :=
  (area.x.toNat ≤ r.x.toNat ∧ r.x.toNat + r.width.toNat ≤ area.x.toNat + area.width.toNat) ∧
    area.y.toNat ≤ r.y.toNat ∧ r.y.toNat + r.height.toNat ≤ area.y.toNat + area.height.toNat

/-- The area is divided at `pos` into `a` before it and `b` behind it. -/
def Divides (area : Rect) (direction : Direction) (pos : ℕ) (a b : Rect) : Prop :=
  match direction with
  | .horizontal =>
    (a.y.toNat = area.y.toNat ∧ a.height.toNat = area.height.toNat ∧
      b.y.toNat = area.y.toNat ∧ b.height.toNat = area.height.toNat) ∧
    a.x.toNat = area.x.toNat ∧ a.x.toNat + a.width.toNat = pos ∧ b.x.toNat = pos ∧
      b.x.toNat + b.width.toNat = area.x.toNat + area.width.toNat
  | .vertical =>
    (a.x.toNat = area.x.toNat ∧ a.width.toNat = area.width.toNat ∧
      b.x.toNat = area.x.toNat ∧ b.width.toNat = area.width.toNat) ∧
    a.y.toNat = area.y.toNat ∧ a.y.toNat + a.height.toNat = pos ∧ b.y.toNat = pos ∧
      b.y.toNat + b.height.toNat = area.y.toNat + area.height.toNat

section
variable {area a b r q : Rect} {direction : Direction} {pos : ℕ}

lemma within_refl (r : Rect) : r.Within r :=
  ⟨⟨Nat.le_refl _, Nat.le_refl _⟩, Nat.le_refl _, Nat.le_refl _⟩

lemma Within.trans (h₁ : r.Within q) (h₂ : q.Within area) : r.Within area := by
  unfold Within at *
  omega

lemma Within.fits (h : r.Within area) (harea : area.Fits) : r.Fits := by
  unfold Within Fits at *
  omega

lemma Divides.within (h : area.Divides direction pos a b) : a.Within area ∧ b.Within area := by
  unfold Within
  cases direction with
  | horizontal =>
    obtain ⟨⟨_, _, _, _⟩, _, _, _, _⟩ := h
    omega
  | vertical =>
    obtain ⟨⟨_, _, _, _⟩, _, _, _, _⟩ := h
    omega

lemma Divides.cells (h : area.Divides direction pos a b) :
    Disjoint a.cells b.cells ∧ area.cells = a.cells ∪ b.cells := by
  have hcells : ∀ x y : ℕ, ((x, y) ∈ a.cells → (x, y) ∉ b.cells) ∧
      ((x, y) ∈ area.cells ↔ (x, y) ∈ a.cells ∨ (x, y) ∈ b.cells) := by
    intro x y
    rw [mem_cells, mem_cells, mem_cells]
    cases direction with
    | horizontal =>
      obtain ⟨⟨_, _, _, _⟩, _, _, _, _⟩ := h
      omega
    | vertical =>
      obtain ⟨⟨_, _, _, _⟩, _, _, _, _⟩ := h
      omega
  refine ⟨?_, ?_⟩
  · rw [Set.disjoint_left]
    rintro ⟨x, y⟩ ha
    exact (hcells x y).1 ha
  · ext ⟨x, y⟩
    exact (hcells x y).2

end

end Rect

namespace Rounded

/-- No split of the node gives its first part more than there is. -/
def WithinTotal (splitSize : UInt16 → ℚ → UInt16) : Node → Prop
  | .pane _ => True
  | .split _ ratio first second =>
    (∀ total, (splitSize total ratio).toNat ≤ total.toNat) ∧ WithinTotal splitSize first ∧
      WithinTotal splitSize second

section
variable {rectNew : UInt16 → UInt16 → UInt16 → UInt16 → Rect} {splitSize : UInt16 → ℚ → UInt16}
  {area r : Rect} {direction : Direction} {ratio : ℚ} {focus : PaneId} {n node first second : Node}
  {path q : List Bool} {s : SplitBorder}

/-- The position of the border that `collect_splits` gives a split. -/
def borderPos (direction : Direction) (a : Rect) : UInt16 :=
  match direction with
  | .horizontal => a.x + a.width
  | .vertical => a.y + a.height

lemma rectNew_toNat (hnew : RectNewLimits rectNew) (x y width height : UInt16) :
    (rectNew x y width height).x = x ∧ (rectNew x y width height).y = y ∧
      (rectNew x y width height).width.toNat = min width.toNat (65535 - x.toNat) ∧
      (rectNew x y width height).height.toNat = min height.toNat (65535 - y.toNat) := by
  rw [hnew]
  simp only [min_toNat, limit_toNat, true_and]

lemma divides_splitRect (hnew : RectNewLimits rectNew) (harea : area.Fits)
    (hround : ∀ total, (splitSize total ratio).toNat ≤ total.toNat) (direction : Direction) :
    area.Divides direction
      (borderPos direction (splitRect rectNew splitSize area direction ratio).1).toNat
      (splitRect rectNew splitSize area direction ratio).1
      (splitRect rectNew splitSize area direction ratio).2 := by
  obtain ⟨hx, hy⟩ := harea
  cases direction with
  | horizontal =>
    unfold splitRect borderPos Rect.Divides
    dsimp only
    have hle := hround area.width
    generalize splitSize area.width ratio = first at hle ⊢
    have hsum : (area.x + first).toNat = area.x.toNat + first.toNat := add_toNat (by omega)
    have hrest := saturatingSub_toNat area.width first
    obtain ⟨hax, hay, haw, hah⟩ := rectNew_toNat hnew area.x area.y first area.height
    obtain ⟨hbx, hby, hbw, hbh⟩ := rectNew_toNat hnew (area.x + first) area.y
      (saturatingSub area.width first) area.height
    rw [hax, hay, hbx, hby, add_toNat (by omega)]
    omega
  | vertical =>
    unfold splitRect borderPos Rect.Divides
    dsimp only
    have hle := hround area.height
    generalize splitSize area.height ratio = first at hle ⊢
    have hsum : (area.y + first).toNat = area.y.toNat + first.toNat := add_toNat (by omega)
    have hrest := saturatingSub_toNat area.height first
    obtain ⟨hax, hay, haw, hah⟩ := rectNew_toNat hnew area.x area.y area.width first
    obtain ⟨hbx, hby, hbw, hbh⟩ := rectNew_toNat hnew area.x (area.y + first) area.width
      (saturatingSub area.height first)
    rw [hax, hay, hbx, hby, add_toNat (by omega)]
    omega

/-! ### The panes -/

lemma collectPanes_split : collectPanes rectNew splitSize focus (.split direction ratio first second)
    area =
      collectPanes rectNew splitSize focus first
          (splitRect rectNew splitSize area direction ratio).1 ++
        collectPanes rectNew splitSize focus second
          (splitRect rectNew splitSize area direction ratio).2 := rfl

/-- The panes tile the area, and lie in it also where they are empty. -/
lemma tiles_collectPanes (hnew : RectNewLimits rectNew) (hround : WithinTotal splitSize n)
    (harea : area.Fits) :
    Tiles (fun p : PaneInfo => p.rect.cells) (collectPanes rectNew splitSize focus n area)
        area.cells ∧
      ∀ p ∈ collectPanes rectNew splitSize focus n area, p.rect.Within area := by
  induction n generalizing area with
  | pane id =>
    refine ⟨@tiles_singleton _ _ (fun p : PaneInfo => p.rect.cells) _, fun p hp => ?_⟩
    rw [List.mem_singleton.mp hp]
    exact Rect.within_refl area
  | split direction ratio first second ih₁ ih₂ =>
    obtain ⟨hle, hfirst, hsecond⟩ := hround
    have hdivides := divides_splitRect hnew harea hle direction
    obtain ⟨ha, hb⟩ := hdivides.within
    obtain ⟨hdisjoint, hunion⟩ := hdivides.cells
    obtain ⟨htiles₁, hwithin₁⟩ := ih₁ hfirst (ha.fits harea)
    obtain ⟨htiles₂, hwithin₂⟩ := ih₂ hsecond (hb.fits harea)
    rw [collectPanes_split, hunion]
    refine ⟨htiles₁.append htiles₂ hdisjoint, fun p hp => ?_⟩
    rcases List.mem_append.mp hp with hp | hp
    · exact (hwithin₁ p hp).trans ha
    · exact (hwithin₂ p hp).trans hb

/-! ### Subtrees -/

lemma subtreeAt_nil (n : Node) : n.subtreeAt [] = some n := by
  cases n <;> rfl

lemma areaAt_nil (n : Node) (area : Rect) : areaAt rectNew splitSize n area [] = some (n, area) := by
  cases n <;> rfl

/-- The panes of a subtree stand together and tile the rectangle that the subtree gets. -/
lemma collectPanes_areaAt (hnew : RectNewLimits rectNew) (hround : WithinTotal splitSize n)
    (harea : area.Fits) (h : areaAt rectNew splitSize n area path = some (node, r)) :
    r.Within area ∧ WithinTotal splitSize node ∧ n.subtreeAt path = some node ∧
      ∃ before behind, collectPanes rectNew splitSize focus n area =
        before ++ collectPanes rectNew splitSize focus node r ++ behind := by
  induction path generalizing n area with
  | nil =>
    rw [areaAt_nil] at h
    obtain ⟨rfl, rfl⟩ := Prod.mk.inj (Option.some.inj h)
    exact ⟨Rect.within_refl _, hround, subtreeAt_nil _, [], [], by rw [List.nil_append, List.append_nil]⟩
  | cons step path ih =>
    cases n with
    | pane id => cases h
    | split direction ratio first second =>
      obtain ⟨hle, hfirst, hsecond⟩ := hround
      have hdivides := divides_splitRect hnew harea hle direction
      obtain ⟨ha, hb⟩ := hdivides.within
      rw [collectPanes_split]
      cases step with
      | false =>
        obtain ⟨hwithin, htotal, hsub, before, behind, hpanes⟩ := ih hfirst (ha.fits harea) h
        exact ⟨hwithin.trans ha, htotal, hsub, before, _, by rw [hpanes, List.append_assoc]⟩
      | true =>
        obtain ⟨hwithin, htotal, hsub, before, behind, hpanes⟩ := ih hsecond (hb.fits harea) h
        exact ⟨hwithin.trans hb, htotal, hsub, _, behind, by rw [hpanes, ← List.append_assoc,
          ← List.append_assoc]⟩

/-! ### The splits -/

lemma collectSplits_split : collectSplits rectNew splitSize (.split direction ratio first second)
    area path =
      ⟨borderPos direction (splitRect rectNew splitSize area direction ratio).1, direction, ratio,
          area, path⟩ ::
        (collectSplits rectNew splitSize first
            (splitRect rectNew splitSize area direction ratio).1 (path ++ [false]) ++
          collectSplits rectNew splitSize second
            (splitRect rectNew splitSize area direction ratio).2 (path ++ [true])) := rfl

/-- The paths of the borders are those of the split nodes. -/
lemma mem_paths_iff : q ∈ (collectSplits rectNew splitSize n area path).map (·.path) ↔
    ∃ q', q = path ++ q' ∧ ∃ direction ratio first second,
      n.subtreeAt q' = some (.split direction ratio first second) := by
  induction n generalizing area path with
  | pane id =>
    constructor
    · intro h
      cases h
    · rintro ⟨q', -, direction, ratio, first, second, h⟩
      cases q' <;> cases h
  | split direction ratio first second ih₁ ih₂ =>
    rw [collectSplits_split, List.map_cons, List.mem_cons, List.map_append, List.mem_append, ih₁,
      ih₂]
    constructor
    · rintro (rfl | ⟨q', rfl, h⟩ | ⟨q', rfl, h⟩)
      · exact ⟨[], (List.append_nil _).symm, direction, ratio, first, second, rfl⟩
      · exact ⟨false :: q', by rw [List.append_assoc, List.singleton_append], h⟩
      · exact ⟨true :: q', by rw [List.append_assoc, List.singleton_append], h⟩
    · rintro ⟨q', rfl, h⟩
      cases q' with
      | nil => exact .inl (List.append_nil _)
      | cons step q' =>
        cases step with
        | false =>
          exact .inr (.inl ⟨q', by rw [List.append_assoc, List.singleton_append], h⟩)
        | true =>
          exact .inr (.inr ⟨q', by rw [List.append_assoc, List.singleton_append], h⟩)

lemma nodup_paths : ((collectSplits rectNew splitSize n area path).map (·.path)).Nodup := by
  induction n generalizing area path with
  | pane id => exact List.nodup_nil
  | split direction ratio first second ih₁ ih₂ =>
    rw [collectSplits_split, List.map_cons, List.map_append, List.nodup_cons, List.nodup_append,
      List.mem_append, mem_paths_iff, mem_paths_iff]
    refine ⟨?_, ih₁, ih₂, ?_⟩
    · rintro (⟨q', h, -⟩ | ⟨q', h, -⟩) <;>
      · have hlength := congrArg List.length h
        simp only [List.length_append, List.length_singleton] at hlength
        omega
    · rintro p hp p' hp' rfl
      obtain ⟨q₁, hq₁, -⟩ := mem_paths_iff.mp hp
      obtain ⟨q₂, hq₂, -⟩ := mem_paths_iff.mp hp'
      rw [hq₁, List.append_assoc, List.append_assoc] at hq₂
      cases List.append_cancel_left hq₂

/-- A border lies between the rectangles of the two subtrees of its split. -/
lemma border_spec (hnew : RectNewLimits rectNew) (hround : WithinTotal splitSize n)
    (harea : area.Fits) (hs : s ∈ collectSplits rectNew splitSize n area path) :
    ∃ q first second a b, s.path = path ++ q ∧
      areaAt rectNew splitSize n area q =
        some (.split s.direction s.ratio first second, s.area) ∧
      areaAt rectNew splitSize n area (q ++ [false]) = some (first, a) ∧
      areaAt rectNew splitSize n area (q ++ [true]) = some (second, b) ∧
      s.area.Divides s.direction s.pos.toNat a b := by
  induction n generalizing area path with
  | pane id => cases hs
  | split direction ratio first second ih₁ ih₂ =>
    obtain ⟨hle, hfirst, hsecond⟩ := hround
    have hdivides := divides_splitRect hnew harea hle direction
    obtain ⟨ha, hb⟩ := hdivides.within
    rw [collectSplits_split, List.mem_cons, List.mem_append] at hs
    rcases hs with rfl | hs | hs
    · exact ⟨[], first, second, _, _, (List.append_nil _).symm, rfl, areaAt_nil _ _,
        areaAt_nil _ _, hdivides⟩
    · obtain ⟨q, first', second', a, b, hpath, hnode, hleft, hright, hborder⟩ :=
        ih₁ hfirst (ha.fits harea) hs
      exact ⟨false :: q, first', second', a, b,
        by rw [hpath, List.append_assoc, List.singleton_append], hnode, hleft, hright, hborder⟩
    · obtain ⟨q, first', second', a, b, hpath, hnode, hleft, hright, hborder⟩ :=
        ih₂ hsecond (hb.fits harea) hs
      exact ⟨true :: q, first', second', a, b,
        by rw [hpath, List.append_assoc, List.singleton_append], hnode, hleft, hright, hborder⟩

/-- The panes tile the area, and the borders are, one for each split node, the boundaries between
the rectangles that the panes of the two subtrees tile. -/
theorem panes_tile_area (hnew : RectNewLimits rectNew) (l : TileLayout)
    (hround : WithinTotal splitSize l.root) (harea : area.Fits) :
    (Tiles (fun p : PaneInfo => p.rect.cells) (panes rectNew splitSize l area) area.cells ∧
      ∀ p ∈ panes rectNew splitSize l area, p.rect.Within area) ∧
    (((splits rectNew splitSize l area).map (·.path)).Nodup ∧
      ∀ path, path ∈ (splits rectNew splitSize l area).map (·.path) ↔
        ∃ direction ratio first second,
          l.root.subtreeAt path = some (.split direction ratio first second)) ∧
    (∀ s ∈ splits rectNew splitSize l area, ∃ first second a b,
      areaAt rectNew splitSize l.root area s.path =
        some (.split s.direction s.ratio first second, s.area) ∧
      areaAt rectNew splitSize l.root area (s.path ++ [false]) = some (first, a) ∧
      areaAt rectNew splitSize l.root area (s.path ++ [true]) = some (second, b) ∧
      s.area.Divides s.direction s.pos.toNat a b) ∧
    ∀ path node r, areaAt rectNew splitSize l.root area path = some (node, r) →
      l.root.subtreeAt path = some node ∧
      (∃ before behind, panes rectNew splitSize l area =
        before ++ collectPanes rectNew splitSize l.focus node r ++ behind) ∧
      Tiles (fun p : PaneInfo => p.rect.cells)
        (collectPanes rectNew splitSize l.focus node r) r.cells := by
  refine ⟨tiles_collectPanes hnew hround harea, ⟨nodup_paths, fun path => ?_⟩, ?_, ?_⟩
  · refine mem_paths_iff.trans ⟨?_, fun h => ⟨path, rfl, h⟩⟩
    rintro ⟨q, rfl, h⟩
    exact h
  · intro s hs
    obtain ⟨q, first, second, a, b, rfl, hspec⟩ := border_spec hnew hround harea hs
    exact ⟨first, second, a, b, hspec⟩
  · intro path node r h
    obtain ⟨hwithin, htotal, hsub, hpanes⟩ := collectPanes_areaAt hnew hround harea h
    exact ⟨hsub, hpanes, (tiles_collectPanes hnew htotal (hwithin.fits harea)).1⟩

/-! ### Exact sizes -/

/-- With exact arithmetic a ratio of at most 1 does not give more than there is. -/
lemma exactSize_le (h : ratio ≤ 1) (total : UInt16) :
    (exactSize total ratio).toNat ≤ total.toNat := by
  unfold exactSize roundToU16
  dsimp only
  rw [UInt16.toNat_ofNat']
  refine Nat.le_trans (Nat.mod_le _ _) (Nat.le_trans (Nat.min_le_left _ _) ?_)
  have htotal : (0 : ℚ) ≤ total.toNat := Nat.cast_nonneg _
  split
  · have hle : (total.toNat : ℚ) * ratio + 1 / 2 < total.toNat + 1 := by nlinarith
    have hfloor : ⌊(total.toNat : ℚ) * ratio + 1 / 2⌋ < (total.toNat : ℤ) + 1 := by
      rw [Int.floor_lt]
      exact_mod_cast hle
    omega
  · next hneg =>
    have hfloor : 0 ≤ ⌊-((total.toNat : ℚ) * ratio) + 1 / 2⌋ := by
      rw [Int.floor_nonneg]
      linarith
    omega

/-- The panes of a layout tile its area of 80 columns and 24 rows. -/
theorem panes_tile_area_stacked :
    Tiles (fun p : PaneInfo => p.rect.cells)
      (panes limitedRect exactSize stackedLayout ⟨0, 0, 80, 24⟩) (Rect.cells ⟨0, 0, 80, 24⟩) :=
  (panes_tile_area (fun _ _ _ _ => rfl) stackedLayout
    ⟨exactSize_le (by norm_num), trivial, exactSize_le (by norm_num), trivial, trivial⟩
    ⟨by decide, by decide⟩).1.1

end

end Rounded

end Ork3.Layout
