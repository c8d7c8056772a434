import Ork3.Model.PlacementClipping

/-!
# Clipping a placement to its pane

A placement whose numbers keep within bounds is clipped without an arithmetic error. What is shown
of it lies inside the pane, and what is read inside the image.
-/

namespace Ork3.Graphics

open Ork3.Library Ork3.Layout

/-! ### One axis -/

section
variable {a b c : UInt32} {v : Int32}

lemma toNat_saturatingSub (a b : UInt32) : (saturatingSub a b).toNat = a.toNat - b.toNat := by
  unfold saturatingSub
  split
  · rename_i hlt
    rw [UInt32.lt_iff_toNat_lt] at hlt
    rw [UInt32.toNat_zero]
    omega
  · rename_i hnlt
    rw [UInt32.not_lt] at hnlt
    exact UInt32.toNat_sub_of_le _ _ hnlt

lemma toNat_saturatingMul (a b : UInt32) :
    (saturatingMul a b).toNat = min (a.toNat * b.toNat) (2 ^ 32 - 1) := by
  unfold saturatingMul
  rw [UInt32.toNat_ofNat_of_lt']
  have hsize : UInt32.size = 2 ^ 32 := rfl
  omega

lemma toNat_max (a b : UInt32) : (max a b).toNat = max a.toNat b.toNat := by
  by_cases hle : a ≤ b
  · have hmax : max a b = b := if_pos hle
    rw [hmax, Nat.max_eq_right (UInt32.le_iff_toNat_le.mp hle)]
  · have hmax : max a b = a := if_neg hle
    have hge : b ≤ a := UInt32.le_of_lt (UInt32.not_le.mp hle)
    rw [hmax, Nat.max_eq_left (UInt32.le_iff_toNat_le.mp hge)]

lemma toNat_min (a b : UInt32) : (min a b).toNat = min a.toNat b.toNat := by
  by_cases hle : a ≤ b
  · have hmin : min a b = a := if_pos hle
    rw [hmin, Nat.min_eq_left (UInt32.le_iff_toNat_le.mp hle)]
  · have hmin : min a b = b := if_neg hle
    have hge : b ≤ a := UInt32.le_of_lt (UInt32.not_le.mp hle)
    rw [hmin, Nat.min_eq_right (UInt32.le_iff_toNat_le.mp hge)]

lemma scalePixelsChecked_eq (value source dest : UInt32) :
    scalePixelsChecked value source dest = some (scalePixels value source dest) := by
  have hproduct : value.toNat * source.toNat ≤ 2 ^ 64 - 1 := by
    have hvalue : value.toNat ≤ 2 ^ 32 - 1 := by
      have hlt := value.toNat_lt
      omega
    have hsource : source.toNat ≤ 2 ^ 32 - 1 := by
      have hlt := source.toNat_lt
      omega
    calc value.toNat * source.toNat ≤ (2 ^ 32 - 1) * (2 ^ 32 - 1) := Nat.mul_le_mul hvalue hsource
      _ ≤ 2 ^ 64 - 1 := by norm_num
  unfold scalePixelsChecked scalePixels
  dsimp only
  rw [if_neg (by omega), min_eq_left hproduct]

/-- A part of the placement covers a part of the source. -/
lemma toNat_scalePixels_le {value source dest : UInt32} (h : value.toNat ≤ dest.toNat) :
    (scalePixels value source dest).toNat ≤ source.toNat := by
  have hdiv : value.toNat * source.toNat / max dest.toNat 1 ≤ source.toNat := by
    apply Nat.div_le_of_le_mul
    exact Nat.mul_le_mul_right _ (h.trans (le_max_left _ _))
  have hsource := source.toNat_lt
  unfold scalePixels
  rw [UInt32.toNat_ofNat_of_lt' (by have hsize : UInt32.size = 2 ^ 32 := rfl; omega)]
  omega

lemma toNat_toUInt32 (hle : 0 ≤ v.toInt) : (v.toUInt32.toNat : Int) = v.toInt := by
  have hzero : (0 : Int32) ≤ v := by
    rw [Int32.le_iff_toInt_le, Int32.toInt_zero]
    exact hle
  rw [Int32.toNat_toUInt32_of_le hzero, Int32.toNatClampNeg]
  exact Int.toNat_of_nonneg hle

/-- The clipped cells, unless the column has no negation. -/
lemma toNat_clip (hmin : v ≠ Int32.minValue) :
    ((if v < 0 then saturatingNeg v else 0).toNat : Int) = max (-v.toInt) 0 := by
  have hlow := v.le_toInt
  have hhigh := v.toInt_lt
  have hne : v.toInt ≠ -2 ^ 31 := fun heq => hmin (Int32.toInt_inj.mp heq)
  by_cases hneg : v < 0
  · have hint : v.toInt < 0 := by
      rw [← Int32.toInt_zero]
      exact Int32.lt_iff_toInt_lt.mp hneg
    have hnegInt : (-v).toInt = -v.toInt := by
      rw [Int32.toInt_neg]
      apply Int.bmod_eq_of_le <;> omega
    rw [if_pos hneg, saturatingNeg, if_neg hmin, toNat_toUInt32 (by omega), hnegInt]
    omega
  · have hint : ¬ v.toInt < 0 := by
      rw [← Int32.toInt_zero]
      exact fun hlt => hneg (Int32.lt_iff_toInt_lt.mpr hlt)
    rw [if_neg hneg, UInt32.toNat_zero]
    omega

lemma toNat_viewport (v : Int32) : ((max v 0).toUInt32.toNat : Int) = max v.toInt 0 := by
  by_cases hle : v ≤ 0
  · have hint : v.toInt ≤ 0 := by
      rw [← Int32.toInt_zero]
      exact Int32.le_iff_toInt_le.mp hle
    have hmax : max v 0 = 0 := if_pos hle
    rw [hmax]
    have hzero : (0 : Int32).toUInt32.toNat = 0 := rfl
    omega
  · have hint : ¬ v.toInt ≤ 0 := by
      rw [← Int32.toInt_zero]
      exact fun hle' => hle (Int32.le_iff_toInt_le.mpr hle')
    have hmax : max v 0 = v := if_neg hle
    rw [hmax, toNat_toUInt32 (by omega)]
    omega

end

/-! ### Steps that do not fail -/

section
variable {clip grid cell px start source image area visible : UInt32}

lemma toNat_crop_le (h : clip.toNat ≤ grid.toNat) : (saturatingMul clip cell).toNat ≤
    (max (max px (saturatingMul grid cell)) 1).toNat := by
  have hmul : clip.toNat * cell.toNat ≤ grid.toNat * cell.toNat := Nat.mul_le_mul_right _ h
  rw [toNat_max, toNat_max, toNat_saturatingMul, toNat_saturatingMul]
  omega

lemma checkedAdd_scalePixels {value dest : UInt32} (hvalue : value.toNat ≤ dest.toNat)
    (hsource : start.toNat + source.toNat < 2 ^ 32) :
    checkedAdd start (scalePixels value source dest) =
      some (start + scalePixels value source dest) := by
  have hle : (scalePixels value source dest).toNat ≤ source.toNat := toNat_scalePixels_le hvalue
  rw [checkedAdd, if_pos (by omega)]

lemma checkedSub_of_lt (h : ¬ area ≤ start) : checkedSub area start = some (area - start) := by
  rw [checkedSub, if_pos (UInt32.le_of_lt (UInt32.not_le.mp h))]

/-- The first cell shown, and the cells from there on. -/
lemma checkedAddU16_viewport {x width : UInt16} (hright : x.toNat + width.toNat ≤ 65536)
    (h : ¬ width.toUInt32 ≤ start) :
    checkedAddU16 x start.toUInt16 = some (x + start.toUInt16) ∧
      (x + start.toUInt16).toNat = x.toNat + start.toNat := by
  have hlt : start.toNat < width.toNat := by
    rw [UInt32.not_le, UInt32.lt_iff_toNat_lt, UInt16.toNat_toUInt32] at h
    exact h
  have hwidth := width.toNat_lt
  have hstart : start.toUInt16.toNat = start.toNat := by
    rw [UInt32.toNat_toUInt16]
    omega
  have hsum : x.toNat + start.toUInt16.toNat < 2 ^ 16 := by omega
  refine ⟨by rw [checkedAddU16, if_pos hsum], ?_⟩
  rw [UInt16.toNat_add, hstart]
  omega

lemma toNat_visible_le {width : UInt16} (h : ¬ width.toUInt32 ≤ start) :
    start.toNat + (min (saturatingSub grid clip) (width.toUInt32 - start)).toNat ≤ width.toNat := by
  rw [UInt32.not_le] at h
  have hsub := UInt32.toNat_sub_of_le _ _ (UInt32.le_of_lt h)
  rw [UInt32.lt_iff_toNat_lt] at h
  rw [UInt16.toNat_toUInt32] at h hsub
  rw [toNat_min, hsub]
  omega

lemma lt_of_visible_ne_zero (h : min (saturatingSub grid clip) visible ≠ 0) :
    clip.toNat < grid.toNat ∧ 0 < (min (saturatingSub grid clip) visible).toNat := by
  have hne : (min (saturatingSub grid clip) visible).toNat ≠ 0 :=
    fun heq => h (UInt32.toNat_inj.mp heq)
  rw [toNat_min, toNat_saturatingSub] at hne ⊢
  omega

/-- What is read of the image lies inside it. -/
lemma source_inside {scaled : UInt32}
    (h : min (max scaled 1) (saturatingSub image start) ≠ 0) :
    start.toNat + (min (max scaled 1) (saturatingSub image start)).toNat ≤ image.toNat ∧
      0 < (min (max scaled 1) (saturatingSub image start)).toNat := by
  have hne : (min (max scaled 1) (saturatingSub image start)).toNat ≠ 0 :=
    fun heq => h (UInt32.toNat_inj.mp heq)
  rw [toNat_min, toNat_saturatingSub] at hne ⊢
  omega

/-- The first cell shown is one of the placement's. -/
lemma cell_of_visible {v : Int32} (hmin : v ≠ Int32.minValue) (hgrid : grid ≠ 0)
    (h : (if v < 0 then saturatingNeg v else 0).toNat < grid.toNat) :
    v.toInt ≤ (max v 0).toUInt32.toNat ∧
      ((max v 0).toUInt32.toNat : Int) < v.toInt + grid.toNat := by
  have hclip := toNat_clip hmin
  have hviewport := toNat_viewport v
  have hpos : grid.toNat ≠ 0 := fun heq => hgrid (UInt32.toNat_inj.mp heq)
  omega

end

/-! ### Placements within bounds -/

namespace HostPlacement
variable (p : HostPlacement)

/-- The width of the source, which is the image's unless one was asked for. -/
def naturalWidth : UInt32 :=
  if p.placement.render.sourceWidth = 0 then p.placement.image.imageWidth
  else p.placement.render.sourceWidth

def naturalHeight : UInt32 :=
  if p.placement.render.sourceHeight = 0 then p.placement.image.imageHeight
  else p.placement.render.sourceHeight

/-- The last cells of the area and the ends of the source have numbers, and the position has a
negation. -/
structure Bounded : Prop where
  right : p.area.x.toNat + p.area.width.toNat ≤ 65536
  bottom : p.area.y.toNat + p.area.height.toNat ≤ 65536
  sourceRight : p.placement.render.sourceX.toNat + p.naturalWidth.toNat < 2 ^ 32
  sourceBottom : p.placement.render.sourceY.toNat + p.naturalHeight.toNat < 2 ^ 32
  col : p.placement.render.viewportCol ≠ Int32.minValue
  row : p.placement.render.viewportRow ≠ Int32.minValue

/-- Some cell of the placement is a cell of the area. -/
def Intersects : Prop :=
  let render := p.placement.render
  ∃ col row : Int, (0 ≤ col ∧ col < p.area.width.toNat) ∧ (0 ≤ row ∧ row < p.area.height.toNat) ∧
    (render.viewportCol.toInt ≤ col ∧ col < render.viewportCol.toInt + render.gridCols.toNat) ∧
    (render.viewportRow.toInt ≤ row ∧ row < render.viewportRow.toInt + render.gridRows.toNat)

/-- The rectangle shown lies inside the area, the one read inside the image, and both have cells. -/
structure ShowsInside (clipped : ClippedPlacement) : Prop where
  left : p.area.x.toNat ≤ clipped.x.toNat
  right : clipped.x.toNat + clipped.cols.toNat ≤ p.area.x.toNat + p.area.width.toNat
  top : p.area.y.toNat ≤ clipped.y.toNat
  bottom : clipped.y.toNat + clipped.rows.toNat ≤ p.area.y.toNat + p.area.height.toNat
  shown : 0 < clipped.cols.toNat ∧ 0 < clipped.rows.toNat
  sourceRight : clipped.sourceX.toNat + clipped.sourceWidth.toNat ≤
    p.placement.image.imageWidth.toNat
  sourceBottom : clipped.sourceY.toNat + clipped.sourceHeight.toNat ≤
    p.placement.image.imageHeight.toNat
  read : 0 < clipped.sourceWidth.toNat ∧ 0 < clipped.sourceHeight.toNat

/-- No step of the clipping fails, the placement is clipped to the area and the image, and nothing
is shown of one that does not intersect the area. -/
def ClipsSafely : Prop :=
  ∃ result, clippedPlacementChecked p = some result ∧ clippedPlacement p = result ∧
    (∀ clipped code, result = some (clipped, code) → p.ShowsInside clipped) ∧
    (¬ p.Intersects → result = none)

end HostPlacement

/-- A placement within bounds is clipped safely. -/
theorem clipsSafely_of_bounded {p : HostPlacement} (h : p.Bounded) : p.ClipsSafely := by
  have hnone : ∀ result : Option (ClippedPlacement × UInt32), result = none →
      (∀ clipped code, result = some (clipped, code) → p.ShowsInside clipped) ∧
        (¬ p.Intersects → result = none) := by
    rintro result rfl
    exact ⟨fun clipped code h => (nomatch h), fun _ => rfl⟩
  unfold HostPlacement.ClipsSafely clippedPlacementChecked clippedPlacement
  dsimp only
  by_cases harea : p.area.width = 0 ∨ p.area.height = 0
  · rw [if_pos harea, if_pos harea]
    exact ⟨none, rfl, rfl, hnone _ rfl⟩
  rw [if_neg harea, if_neg harea]
  by_cases hgrid : p.placement.render.gridCols = 0 ∨ p.placement.render.gridRows = 0
  · rw [if_pos hgrid, if_pos hgrid]
    exact ⟨none, rfl, rfl, hnone _ rfl⟩
  rw [if_neg hgrid, if_neg hgrid]
  by_cases hviewport : p.area.width.toUInt32 ≤ (max p.placement.render.viewportCol 0).toUInt32 ∨
      p.area.height.toUInt32 ≤ (max p.placement.render.viewportRow 0).toUInt32
  · rw [if_pos hviewport, if_pos hviewport]
    exact ⟨none, rfl, rfl, hnone _ rfl⟩
  rw [if_neg hviewport, if_neg hviewport]
  obtain ⟨hgridCols, hgridRows⟩ := not_or.mp hgrid
  obtain ⟨hcol, hrow⟩ := not_or.mp hviewport
  rw [checkedSub_of_lt hcol, checkedSub_of_lt hrow]
  simp only [Option.bind_eq_bind, Option.bind_some]
  have hcols := @lt_of_visible_ne_zero
    (if p.placement.render.viewportCol < 0 then saturatingNeg p.placement.render.viewportCol else 0)
    p.placement.render.gridCols
    (p.area.width.toUInt32 - (max p.placement.render.viewportCol 0).toUInt32)
  have hrows := @lt_of_visible_ne_zero
    (if p.placement.render.viewportRow < 0 then saturatingNeg p.placement.render.viewportRow else 0)
    p.placement.render.gridRows
    (p.area.height.toUInt32 - (max p.placement.render.viewportRow 0).toUInt32)
  have hcolCell := @cell_of_visible _ _ h.col hgridCols
  have hrowCell := @cell_of_visible _ _ h.row hgridRows
  have hcolFits := @toNat_visible_le
    (if p.placement.render.viewportCol < 0 then saturatingNeg p.placement.render.viewportCol else 0)
    p.placement.render.gridCols _ _ hcol
  have hrowFits := @toNat_visible_le
    (if p.placement.render.viewportRow < 0 then saturatingNeg p.placement.render.viewportRow else 0)
    p.placement.render.gridRows _ _ hrow
  generalize (if p.placement.render.viewportCol < 0 then
    saturatingNeg p.placement.render.viewportCol else 0) = leftClip at *
  generalize (if p.placement.render.viewportRow < 0 then
    saturatingNeg p.placement.render.viewportRow else 0) = topClip at *
  by_cases hvisible :
      min (saturatingSub p.placement.render.gridCols leftClip)
        (p.area.width.toUInt32 - (max p.placement.render.viewportCol 0).toUInt32) = 0 ∨
      min (saturatingSub p.placement.render.gridRows topClip)
        (p.area.height.toUInt32 - (max p.placement.render.viewportRow 0).toUInt32) = 0
  · rw [if_pos hvisible, if_pos hvisible]
    exact ⟨none, rfl, rfl, hnone _ rfl⟩
  rw [if_neg hvisible, if_neg hvisible]
  obtain ⟨hvisibleCols, hvisibleRows⟩ := not_or.mp hvisible
  obtain ⟨hleft, hcolsPos⟩ := hcols hvisibleCols
  obtain ⟨htop, hrowsPos⟩ := hrows hvisibleRows
  obtain ⟨hcolFirst, hcolLast⟩ := hcolCell hleft
  obtain ⟨hrowFirst, hrowLast⟩ := hrowCell htop
  have hsourceX := h.sourceRight
  have hsourceY := h.sourceBottom
  unfold HostPlacement.naturalWidth at hsourceX
  unfold HostPlacement.naturalHeight at hsourceY
  simp only [scalePixelsChecked_eq, Option.bind_some,
    checkedAdd_scalePixels (toNat_crop_le hleft.le) hsourceX,
    checkedAdd_scalePixels (toNat_crop_le htop.le) hsourceY]
  obtain ⟨hx, hxNat⟩ := checkedAddU16_viewport h.right hcol
  obtain ⟨hy, hyNat⟩ := checkedAddU16_viewport h.bottom hrow
  simp only [hx, hy, Option.bind_some]
  generalize (if p.placement.render.sourceWidth = 0 then p.placement.image.imageWidth
    else p.placement.render.sourceWidth) = sourceWidth at *
  generalize (if p.placement.render.sourceHeight = 0 then p.placement.image.imageHeight
    else p.placement.render.sourceHeight) = sourceHeight at *
  split
  · exact ⟨none, rfl, rfl, hnone _ rfl⟩
  · rename_i hsource
    obtain ⟨hwidth, hheight⟩ := not_or.mp hsource
    obtain ⟨hsourceRight, hreadWidth⟩ := source_inside hwidth
    obtain ⟨hsourceBottom, hreadHeight⟩ := source_inside hheight
    refine ⟨_, rfl, rfl, ?_, ?_⟩
    · intro clipped code hclipped
      cases hclipped
      refine ⟨?_, ?_, ?_, ?_, ⟨hcolsPos, hrowsPos⟩, hsourceRight, hsourceBottom,
        ⟨hreadWidth, hreadHeight⟩⟩
      · dsimp only
        omega
      · dsimp only
        omega
      · dsimp only
        omega
      · dsimp only
        omega
    · intro hdisjoint
      exact absurd ⟨_, _, ⟨by omega, by omega⟩, ⟨by omega, by omega⟩, ⟨hcolFirst, hcolLast⟩,
        ⟨hrowFirst, hrowLast⟩⟩ hdisjoint

/-! ### A source at the end of the numbers -/

def clippedLeft (sourceX : UInt32) : HostPlacement where
  paneId := ⟨1⟩
  area := ⟨0, 0, 20, 10⟩
  cellSize := ⟨10, 10⟩
  sourceKey := .terminal ⟨1⟩ 1
  placement :=
    { imageId := 1
      placementId := 1
      z := 0
      xOffset := 0
      yOffset := 0
      image := ⟨100, 100, .rgba, [], 0⟩
      dataIncluded := false
      render := ⟨20, 20, 2, 2, -1, 0, sourceX, 0, 4, 4⟩ }
  scrollbackOffset := 0

/-- The start of the source does not fit. -/
theorem not_clipsSafely_sourceX :
    (clippedPlacement (clippedLeft 0xFFFFFFFF)).isSome = true ∧
      ¬ (clippedLeft 0xFFFFFFFF).ClipsSafely := by
  refine ⟨by decide +kernel, ?_⟩
  rintro ⟨result, hchecked, -⟩
  have hfails : clippedPlacementChecked (clippedLeft 0xFFFFFFFF) = none := by decide +kernel
  rw [hfails] at hchecked
  cases hchecked

theorem clipsSafely_of_bounded_clippedLeft : (clippedLeft 50).ClipsSafely :=
  clipsSafely_of_bounded ⟨by decide, by decide, by decide, by decide, by decide, by decide⟩

end Ork3.Graphics
