import Ork3.Proofs.LayoutTiling
import Ork3.Proofs.Layout

/-!
# Resizing a pane

A resize changes the ratio of one split, chosen by its distance from the edge of the pane, and that
split is an ancestor of the pane.
-/

namespace Ork3.Layout

/-- The tree with all ratios forgotten. -/
def Node.shape : Node → Node
  | .pane id => .pane id
  | .split direction _ first second => .split direction 0 first.shape second.shape

section
variable {n m : Node} {path q : List Bool}

lemma Node.shape_setRatioAt (r : ℚ) (n : Node) (path : List Bool) :
    (n.setRatioAt r path).1.shape = n.shape := by
  fun_induction Node.setRatioAt r n path with
  | case1 => rfl
  | case2 => rfl
  | case3 d r' first second path second' found he ih =>
    rw [he] at ih
    simp only [shape, ih]
  | case4 d r' first second path first' found he ih =>
    rw [he] at ih
    simp only [shape, ih]

/-- A ratio at another path stays. -/
lemma Node.getRatioAt_setRatioAt_of_ne (r : ℚ) (n : Node) (path q : List Bool) (h : q ≠ path) :
    (n.setRatioAt r path).1.getRatioAt q = n.getRatioAt q := by
  fun_induction Node.setRatioAt r n path generalizing q with
  | case1 => rfl
  | case2 =>
    cases q with
    | nil => exact (h rfl).elim
    | cons step q => cases step <;> rfl
  | case3 d r' first second path second' found he ih =>
    rw [he] at ih
    cases q with
    | nil => rfl
    | cons step q =>
      cases step with
      | false => rfl
      | true => exact ih q fun hq => h (congrArg _ hq)
  | case4 d r' first second path first' found he ih =>
    rw [he] at ih
    cases q with
    | nil => rfl
    | cons step q =>
      cases step with
      | true => rfl
      | false => exact ih q fun hq => h (congrArg _ hq)

/-- A tree is determined by its shape and its ratios. -/
lemma Node.eq_of_shape_of_getRatioAt (hshape : n.shape = m.shape)
    (h : ∀ q, n.getRatioAt q = m.getRatioAt q) : n = m := by
  induction n generalizing m with
  | pane id =>
    cases m with
    | pane id' => exact hshape
    | split => cases hshape
  | split direction ratio first second ih₁ ih₂ =>
    cases m with
    | pane id => cases hshape
    | split direction' ratio' first' second' =>
      simp only [shape, Node.split.injEq, true_and] at hshape
      obtain ⟨rfl, hfirst, hsecond⟩ := hshape
      rw [ih₁ hfirst fun q => h (false :: q), ih₂ hsecond fun q => h (true :: q),
        Option.some.inj (h [])]

end

namespace Rounded

/-- The result differs from the layout in at most one ratio, which belongs to an ancestor of the
pane that is oriented as the resize asks, and the flag tells whether there is one. -/
structure ResizesAncestor (l : TileLayout) (paneId : PaneId) (nav : NavDirection)
    (result : TileLayout × Bool) : Prop where
  focus : result.1.focus = l.focus
  shape : result.1.root.shape = l.root.shape
  ids : result.1.paneIds = l.paneIds
  ratio : ∀ path, result.1.root.getRatioAt path ≠ l.root.getRatioAt path →
    (∃ ratio first second,
      l.root.subtreeAt path = some (.split (targetDirection nav) ratio first second) ∧
      paneId ∈ first.collectIds ++ second.collectIds) ∧
    ∀ other, other ≠ path → result.1.root.getRatioAt other = l.root.getRatioAt other
  flag : result.2 = true ↔
    ∃ path, result.1.root.getRatioAt path ≠ l.root.getRatioAt path

lemma ResizesAncestor.unchanged (l : TileLayout) (paneId : PaneId) (nav : NavDirection) :
    ResizesAncestor l paneId nav (l, false) := by
  refine ⟨rfl, rfl, rfl, fun path h => absurd rfl h, ⟨fun h => (nomatch h), ?_⟩⟩
  rintro ⟨path, h⟩
  exact absurd rfl h

section
variable {rectNew : UInt16 → UInt16 → UInt16 → UInt16 → Rect} {splitSize : UInt16 → ℚ → UInt16}
  {area a b : Rect} {focus paneId : PaneId} {n first second : Node} {direction : Direction}
  {ratio : ℚ} {path : List Bool} {s s' : SplitBorder} {p : PaneInfo} {nav : NavDirection}
  {l : TileLayout} {delta : F32}

/-! ### Where borders and panes lie -/

/-- A border lies in its area, and its area in that of the whole tree. -/
structure BorderWithin (s : SplitBorder) (area : Rect) : Prop where
  area : s.area.Within area
  pos : match s.direction with
    | .horizontal =>
      s.area.x.toNat ≤ s.pos.toNat ∧ s.pos.toNat ≤ s.area.x.toNat + s.area.width.toNat
    | .vertical =>
      s.area.y.toNat ≤ s.pos.toNat ∧ s.pos.toNat ≤ s.area.y.toNat + s.area.height.toNat

lemma borderWithin_of_mem (hnew : RectNewLimits rectNew) (hround : WithinTotal splitSize n)
    (harea : area.Fits) (hs : s ∈ collectSplits rectNew splitSize n area path) :
    BorderWithin s area := by
  obtain ⟨q, first, second, a, b, -, hnode, -, -, hdivides⟩ := border_spec hnew hround harea hs
  refine ⟨(@collectPanes_areaAt _ _ _ _ .placeholder _ _ _ hnew hround harea hnode).1, ?_⟩
  unfold Rect.Divides at hdivides
  cases hd : s.direction with
  | horizontal =>
    rw [hd] at hdivides
    dsimp only at hdivides ⊢
    omega
  | vertical =>
    rw [hd] at hdivides
    dsimp only at hdivides ⊢
    omega

/-- The distance and the overlap of a border, in numbers. -/
lemma overlaps_iff (hs : s.area.Fits) {r : Rect} (hr : r.Fits) (nav : NavDirection) :
    splitAreaOverlapsFocusedPane s r nav = true ↔
      match targetDirection nav with
      | .horizontal => s.area.y.toNat < r.y.toNat + r.height.toNat ∧
          r.y.toNat < s.area.y.toNat + s.area.height.toNat
      | .vertical => s.area.x.toNat < r.x.toNat + r.width.toNat ∧
          r.x.toNat < s.area.x.toNat + s.area.width.toNat := by
  obtain ⟨hsx, hsy⟩ := hs
  obtain ⟨hrx, hry⟩ := hr
  cases nav with
  | left => exact rangesOverlap_iff hsy hry
  | right => exact rangesOverlap_iff hsy hry
  | up => exact rangesOverlap_iff hsx hrx
  | down => exact rangesOverlap_iff hsx hrx

lemma collectPanes_ids : (collectPanes rectNew splitSize focus n area).map (·.id) = n.collectIds := by
  induction n generalizing area with
  | pane id => rfl
  | split direction ratio first second ih₁ ih₂ =>
    rw [collectPanes_split, List.map_append, ih₁, ih₂, Node.collectIds]

/-- The border between two parts is as near to a pane of one part as any border of the other. -/
lemma nearer_of_divides (harea : area.Fits) {pos : UInt16}
    (hdivides : area.Divides direction pos.toNat a b)
    (hsides : p.rect.Within a ∧ BorderWithin s b ∨ p.rect.Within b ∧ BorderWithin s a)
    (hdir : s.direction = targetDirection nav)
    (hover : splitAreaOverlapsFocusedPane s p.rect nav = true) :
    direction = targetDirection nav ∧
      splitAreaOverlapsFocusedPane ⟨pos, direction, ratio, area, path⟩ p.rect nav = true ∧
      splitEdgeDistance ⟨pos, direction, ratio, area, path⟩ p.rect nav ≤
        splitEdgeDistance s p.rect nav := by
  obtain ⟨ha, hb⟩ := hdivides.within
  have hp : p.rect.Within area := by
    rcases hsides with ⟨hp, -⟩ | ⟨hp, -⟩
    · exact hp.trans ha
    · exact hp.trans hb
  have hs : s.area.Within area := by
    rcases hsides with ⟨-, hs⟩ | ⟨-, hs⟩
    · exact hs.area.trans hb
    · exact hs.area.trans ha
  have hpfits := hp.fits harea
  have hright : (p.rect.x + p.rect.width).toNat = p.rect.x.toNat + p.rect.width.toNat :=
    add_toNat hpfits.1
  have hbottom : (p.rect.y + p.rect.height).toNat = p.rect.y.toNat + p.rect.height.toNat :=
    add_toNat hpfits.2
  rw [overlaps_iff (hs.fits harea) hpfits] at hover
  rw [overlaps_iff harea hpfits]
  have hpos : (∃ area', BorderWithin s area') := by
    rcases hsides with ⟨-, hs⟩ | ⟨-, hs⟩
    · exact ⟨b, hs⟩
    · exact ⟨a, hs⟩
  obtain ⟨-, -, hpos⟩ := hpos
  have hsides : p.rect.Within a ∧ s.area.Within b ∨ p.rect.Within b ∧ s.area.Within a :=
    hsides.imp (And.imp_right (·.area)) (And.imp_right (·.area))
  unfold Rect.Divides at hdivides
  unfold Rect.Within at hp hs hsides
  rw [hdir] at hpos
  cases nav <;> cases direction <;>
    simp only [targetDirection, splitEdgeDistance] at hdivides hpos hover ⊢ <;>
    refine ⟨?_, ?_, ?_⟩ <;> first | trivial | omega

/-- A border that faces the pane belongs to an ancestor of the pane, or one that is listed before
it is no farther from the pane. -/
lemma ancestor_or_nearer (hnew : RectNewLimits rectNew) (hround : WithinTotal splitSize n)
    (harea : area.Fits) (hp : p ∈ collectPanes rectNew splitSize focus n area)
    (hs : s ∈ collectSplits rectNew splitSize n area path) (hdir : s.direction = targetDirection nav)
    (hover : splitAreaOverlapsFocusedPane s p.rect nav = true) :
    (∃ q, s.path = path ++ q ∧ ∃ ratio first second,
      n.subtreeAt q = some (.split s.direction ratio first second) ∧
      p.id ∈ first.collectIds ++ second.collectIds) ∨
    ∃ t, [t, s].Sublist (collectSplits rectNew splitSize n area path) ∧
      t.direction = targetDirection nav ∧ splitAreaOverlapsFocusedPane t p.rect nav = true ∧
      splitEdgeDistance t p.rect nav ≤ splitEdgeDistance s p.rect nav := by
  induction n generalizing area path with
  | pane id => cases hs
  | split direction ratio first second ih₁ ih₂ =>
    obtain ⟨hle, hfirst, hsecond⟩ := hround
    have hdivides := divides_splitRect hnew harea hle direction
    obtain ⟨ha, hb⟩ := hdivides.within
    rw [collectSplits_split] at hs ⊢
    rw [collectPanes_split] at hp
    have hid : p.id ∈ first.collectIds ++ second.collectIds := by
      have hmem := List.mem_map_of_mem (f := (·.id)) hp
      rwa [List.map_append, collectPanes_ids, collectPanes_ids] at hmem
    -- the border of this split is listed before those of both parts
    have hfirst_listed : ∀ {t}, t ∈ collectSplits rectNew splitSize first
        (splitRect rectNew splitSize area direction ratio).1 (path ++ [false]) ++
          collectSplits rectNew splitSize second
        (splitRect rectNew splitSize area direction ratio).2 (path ++ [true]) →
        [⟨borderPos direction (splitRect rectNew splitSize area direction ratio).1, direction,
          ratio, area, path⟩, t].Sublist
        (⟨borderPos direction (splitRect rectNew splitSize area direction ratio).1, direction,
          ratio, area, path⟩ :: (collectSplits rectNew splitSize first
            (splitRect rectNew splitSize area direction ratio).1 (path ++ [false]) ++
          collectSplits rectNew splitSize second
            (splitRect rectNew splitSize area direction ratio).2 (path ++ [true]))) :=
      fun ht => (List.singleton_sublist.mpr ht).cons_cons _
    rcases List.mem_cons.mp hs with rfl | hs
    · exact .inl ⟨[], (List.append_nil _).symm, ratio, first, second, rfl, hid⟩
    have hlisted := hfirst_listed hs
    rcases List.mem_append.mp hs with hs | hs <;> rcases List.mem_append.mp hp with hp | hp
    · rcases ih₁ hfirst (ha.fits harea) hp hs with ⟨q, hpath, hsub⟩ | ⟨t, ht, hnear⟩
      · exact .inl ⟨false :: q, by rw [hpath, List.append_assoc, List.singleton_append], hsub⟩
      · exact .inr ⟨t, (ht.trans (List.sublist_append_left _ _)).cons _, hnear⟩
    · exact .inr ⟨_, hlisted, nearer_of_divides harea hdivides
        (.inr ⟨(tiles_collectPanes hnew hsecond (hb.fits harea)).2 p hp,
          borderWithin_of_mem hnew hfirst (ha.fits harea) hs⟩) hdir hover⟩
    · exact .inr ⟨_, hlisted, nearer_of_divides harea hdivides
        (.inl ⟨(tiles_collectPanes hnew hfirst (ha.fits harea)).2 p hp,
          borderWithin_of_mem hnew hsecond (hb.fits harea) hs⟩) hdir hover⟩
    · rcases ih₂ hsecond (hb.fits harea) hp hs with ⟨q, hpath, hsub⟩ | ⟨t, ht, hnear⟩
      · exact .inl ⟨true :: q, by rw [hpath, List.append_assoc, List.singleton_append], hsub⟩
      · exact .inr ⟨t, (ht.trans (List.sublist_append_right _ _)).cons _, hnear⟩

/-! ### The nearest border -/

/-- The first of the minima is taken. -/
lemma argmin_ne_of_sublist {α : Type} [DecidableEq α] {f : α → ℕ} {as : List α} (hn : as.Nodup)
    {x y : α} (hxy : [x, y].Sublist as) (hle : f x ≤ f y) : as.argmin f ≠ some y := by
  intro h
  obtain ⟨front, back, rfl, hx, hy⟩ := List.cons_sublist_iff.mp hxy
  have hyfront : y ∉ front :=
    fun hmem => (List.nodup_append.mp hn).2.2 y hmem y (List.singleton_sublist.mp hy) rfl
  have hidx := (List.mem_argmin_iff.mp h).2.2 x (List.mem_append_left _ hx) hle
  rw [List.idxOf_append_of_mem hx, List.idxOf_append_of_notMem hyfront] at hidx
  have hlt := List.idxOf_lt_length_of_mem hx
  omega

/-- The border that is nearest to the edge of the pane belongs to an ancestor of the pane. -/
lemma nearest_ancestor (hnew : RectNewLimits rectNew) (hround : WithinTotal splitSize n)
    (harea : area.Fits) (hp : p ∈ collectPanes rectNew splitSize focus n area)
    (h : nearestResizeSplit (collectSplits rectNew splitSize n area []) (targetDirection nav) p.rect
      nav = some s) :
    ∃ ratio first second, n.subtreeAt s.path = some (.split (targetDirection nav) ratio first second) ∧
      p.id ∈ first.collectIds ++ second.collectIds := by
  classical
  have hmem := List.argmin_mem h
  simp only [List.mem_filter, decide_eq_true_eq] at hmem
  obtain ⟨⟨⟨hs, hdir⟩, hover⟩, hedge⟩ := hmem
  rcases ancestor_or_nearer hnew hround harea hp hs hdir hover with
    ⟨q, hpath, ratio, first, second, hsub, hid⟩ | ⟨t, ht, htdir, htover, hle⟩
  · rw [List.nil_append] at hpath
    rw [hdir] at hsub
    exact ⟨ratio, first, second, hpath ▸ hsub, hid⟩
  · refine absurd h (argmin_ne_of_sublist ?_ (x := t) ?_ hle)
    · exact ((nodup_paths.of_map _).filter _ |>.filter _).filter _
    · have htedge : splitOnRequestedEdge t p.rect nav = true := by
        unfold splitOnRequestedEdge at hedge ⊢
        rw [decide_eq_true_eq] at hedge ⊢
        exact Nat.le_trans hle hedge
      have hsub := ((ht.filter (fun s => s.direction = targetDirection nav)).filter
        (fun s => splitAreaOverlapsFocusedPane s p.rect nav)).filter
        (fun s => splitOnRequestedEdge s p.rect nav)
      simpa [htdir, hdir, htover, hover, htedge, hedge] using hsub

/-! ### The resize -/

lemma collectPanes_isFocused (hp : p ∈ collectPanes rectNew splitSize focus n area)
    (h : p.isFocused = true) : p.id = focus := by
  induction n generalizing area with
  | pane id =>
    rw [List.mem_singleton.mp hp] at h ⊢
    exact of_decide_eq_true h
  | split direction ratio first second ih₁ ih₂ =>
    rw [collectPanes_split] at hp
    exact (List.mem_append.mp hp).elim ih₁ ih₂

lemma targetDirection_opposite (nav : NavDirection) :
    targetDirection (oppositeDirection nav) = targetDirection nav := by
  cases nav <;> rfl

variable (nav delta) in
lemma resizeFocused_cases (hnew : RectNewLimits rectNew) (hround : WithinTotal splitSize l.root)
    (harea : area.Fits) :
    resizeFocused rectNew splitSize l nav delta area = l ∨
    ∃ path r, resizeFocused rectNew splitSize l nav delta area =
        { l with root := (l.root.setRatioAt r path).1 } ∧
      ∃ ratio first second,
        l.root.subtreeAt path = some (.split (targetDirection nav) ratio first second) ∧
        l.focus ∈ first.collectIds ++ second.collectIds := by
  unfold resizeFocused
  cases hfocused : (panes rectNew splitSize l area).find? (fun p => p.isFocused) with
  | none => exact .inl rfl
  | some focused =>
    have hmem := List.mem_of_find?_eq_some hfocused
    have hid : focused.id = l.focus := collectPanes_isFocused hmem (List.find?_some hfocused)
    dsimp only
    cases hbest : (nearestResizeSplit (splits rectNew splitSize l area) (targetDirection nav)
        focused.rect nav).or (nearestResizeSplit (splits rectNew splitSize l area)
        (targetDirection nav) focused.rect (oppositeDirection nav)) with
    | none => exact .inl rfl
    | some split =>
      refine .inr ⟨split.path, _, rfl, ?_⟩
      rw [← hid]
      rcases Option.or_eq_some_iff.mp hbest with h | ⟨-, h⟩
      · exact nearest_ancestor hnew hround harea hmem h
      · rw [← targetDirection_opposite] at h ⊢
        exact nearest_ancestor hnew hround harea hmem h

/-- A resize changes at most one ratio, that of an ancestor of the pane with the orientation of the
direction, and reports whether it did. -/
theorem resizePane_ancestor (hnew : RectNewLimits rectNew) (l : TileLayout)
    (hround : WithinTotal splitSize l.root) (harea : area.Fits) (paneId : PaneId)
    (nav : NavDirection) (delta : F32) :
    ResizesAncestor l paneId nav (resizePane rectNew splitSize l paneId nav delta area) := by
  unfold resizePane
  split
  · exact .unchanged l paneId nav
  · dsimp only
    rcases resizeFocused_cases nav delta (l := { l with focus := paneId }) hnew
      hround harea with h | ⟨path, r, h, ratio, first, second, hsub, hid⟩
    · rw [h, decide_eq_false (not_not_intro rfl)]
      exact .unchanged l paneId nav
    · rw [h]
      have hother := fun q (hq : q ≠ path) => l.root.getRatioAt_setRatioAt_of_ne r path q hq
      refine ⟨rfl, l.root.shape_setRatioAt r path, l.root.collectIds_setRatioAt r path, ?_, ?_⟩
      · intro q hq
        obtain rfl : q = path := by
          by_contra hne
          exact hq (hother q hne)
        exact ⟨⟨ratio, first, second, hsub, hid⟩, hother⟩
      · rw [decide_eq_true_eq]
        constructor
        · intro hratios
          by_contra hsame
          push Not at hsame
          refine hratios (congrArg (Node.splitRatios []) ?_)
          exact Node.eq_of_shape_of_getRatioAt (l.root.shape_setRatioAt r path) hsame
        · rintro ⟨q, hq⟩ hratios
          rw [l.root.setRatioAt_eq_of_splitRatios r path [] hratios] at hq
          exact hq rfl

/-! ### Borders of other subtrees -/

/-- The first column gives its left part more than it has, as a restored session may. -/
def widenedLayout : TileLayout :=
  ⟨.split .horizontal (1 / 2) (.split .horizontal (3 / 2) (.pane ⟨1⟩) (.pane ⟨2⟩))
    (.split .horizontal (1 / 2) (.pane ⟨3⟩) (.pane ⟨4⟩)), ⟨3⟩⟩

def cornerLayout : TileLayout :=
  ⟨.split .horizontal (9 / 10) (.split .horizontal (1 / 10) (.pane ⟨1⟩) (.pane ⟨2⟩)) (.pane ⟨3⟩),
    ⟨3⟩⟩

/-- A ratio above 1, or an area that does not fit, lets a split that is no ancestor win. -/
theorem resizePane_unrelated_split :
    (widenedLayout.paneIds.Nodup ∧ ⟨3⟩ ∈ widenedLayout.paneIds ∧ Rect.Fits ⟨0, 0, 100, 10⟩ ∧
      ¬ ResizesAncestor widenedLayout ⟨3⟩ .right (resizePane limitedRect exactSize widenedLayout ⟨3⟩
        .right (.finite (1 / 20)) ⟨0, 0, 100, 10⟩)) ∧
    cornerLayout.paneIds.Nodup ∧ ⟨3⟩ ∈ cornerLayout.paneIds ∧ cornerLayout.root.RatiosBounded ∧
      ¬ ResizesAncestor cornerLayout ⟨3⟩ .right (resizePane limitedRect exactSize cornerLayout ⟨3⟩
        .right (.finite (1 / 20)) ⟨65534, 0, 65535, 10⟩) := by
  refine ⟨⟨by decide, by decide, ⟨by decide, by decide⟩, fun h => ?_⟩, by decide, by decide, ?_,
    fun h => ?_⟩
  · obtain ⟨⟨ratio, first, second, hsub, hid⟩, -⟩ := h.ratio [false] (by decide +kernel)
    cases hsub
    revert hid
    decide
  · norm_num [cornerLayout, Node.RatiosBounded]
  · obtain ⟨⟨ratio, first, second, hsub, hid⟩, -⟩ := h.ratio [false] (by decide +kernel)
    cases hsub
    revert hid
    decide

/-- In the stacked layout the lower pane is made smaller by its own split. -/
theorem resizePane_ancestor_stacked :
    ResizesAncestor stackedLayout stackedLayout.focus .down
      (resizePane limitedRect exactSize stackedLayout stackedLayout.focus .down
        (.finite (1 / 20)) ⟨0, 0, 80, 24⟩) :=
  resizePane_ancestor (fun _ _ _ _ => rfl) stackedLayout
    ⟨exactSize_le (by norm_num), trivial, exactSize_le (by norm_num), trivial, trivial⟩
    ⟨by decide, by decide⟩ _ _ _

end

end Rounded

end Ork3.Layout
