import Ork3.Model.PublicIds
import Ork3.Proofs.Workspace

/-!
# What an edit leaves as it was

The active tab is an index; when a tab before it comes or goes, the index follows the tab. A split
whose spawn fails is undone.
-/

namespace Ork3.Workspaces

open Ork3.Library Ork3.Layout

/-! ### The active tab -/

section
variable {ws : Workspace} {tab : Tab} {idx : Nat}

/-- The index that follows a tab when another one goes. -/
lemma getElem?_eraseIdx_followed {α : Type} {xs : List α} {i active : Nat} (hi : i < xs.length)
    (hactive : active < xs.length) (hne : i ≠ active) :
    (xs.eraseIdx i)[if active ≥ (xs.eraseIdx i).length then (xs.eraseIdx i).length - 1
      else if i ≤ active ∧ active > 0 then active - 1 else active]? = xs[active]? := by
  have hlength : (xs.eraseIdx i).length = xs.length - 1 := List.length_eraseIdx_of_lt hi
  rw [hlength, List.getElem?_eraseIdx]
  by_cases hlast : active ≥ xs.length - 1
  · have heq : xs.length - 1 - 1 + 1 = active := by omega
    rw [if_pos hlast, if_neg (by omega), heq]
  · rw [if_neg hlast]
    by_cases hbefore : i ≤ active ∧ active > 0
    · have heq : active - 1 + 1 = active := by omega
      rw [if_pos hbefore, if_neg (by omega), heq]
    · rw [if_neg hbefore, if_pos (by omega)]

/-- The active tab after the tab at `idx` has gone and the index has followed. -/
lemma Workspace.activeTab?_of_eraseIdx {ws' : Workspace} (h : ws.AssertInvariants)
    (ht : ws.tabs[idx]? = some tab) (hne : idx ≠ ws.activeTab)
    (htabs : ws'.tabs = ws.tabs.eraseIdx idx)
    (hactive : ws'.activeTab = if ws.activeTab ≥ (ws.tabs.eraseIdx idx).length then
        (ws.tabs.eraseIdx idx).length - 1
      else if idx ≤ ws.activeTab ∧ ws.activeTab > 0 then ws.activeTab - 1
      else ws.activeTab) :
    ws'.activeTab? = ws.activeTab? := by
  unfold Workspace.activeTab?
  rw [htabs, hactive]
  apply getElem?_eraseIdx_followed (List.getElem?_eq_some_iff.mp ht).1 _ hne
  exact h.active_lt h.tabs_ne_nil

lemma Workspace.activeTab?_closeTab (h : ws.AssertInvariants) (ht : ws.tabs[idx]? = some tab)
    (hne : idx ≠ ws.activeTab) : (ws.closeTab idx).1.activeTab? = ws.activeTab? := by
  have hidx := (List.getElem?_eq_some_iff.mp ht).1
  have hlt := h.active_lt h.tabs_ne_nil
  unfold Workspace.closeTab
  rw [ht]
  dsimp only
  rw [if_neg (by omega)]
  obtain ⟨heq, -⟩ := foldl_unregisterPane tab.panes.keys { ws with tabs := ws.tabs.eraseIdx idx }
  generalize tab.panes.keys.foldl Workspace.unregisterPane
    { ws with tabs := ws.tabs.eraseIdx idx } = ws' at heq ⊢
  have ht' : ws'.tabs = ws.tabs.eraseIdx idx := by rw [heq]
  have hactive' : ws'.activeTab = ws.activeTab := by rw [heq]
  rw [ht', hactive']
  split_ifs with hlast hbefore
  · apply activeTab?_of_eraseIdx h ht hne rfl
    rw [if_pos hlast]
  · apply activeTab?_of_eraseIdx h ht hne rfl
    rw [if_neg hlast, if_pos hbefore]
  · apply activeTab?_of_eraseIdx h ht hne ht'
    rw [if_neg hlast, if_neg hbefore, hactive']

/-- The tab that has a pane is one. -/
lemma Workspace.Consistent.eq_of_mem_panes (h : ws.Consistent) {other : Tab} {id : PaneId}
    (htab : tab ∈ ws.tabs) (hother : other ∈ ws.tabs) (hid : id ∈ tab.panes)
    (hid' : id ∈ other.panes) : tab = other := by
  have hnodup := h.panes_nodup
  unfold paneIds at hnodup
  rw [List.nodup_flatMap] at hnodup
  by_contra hne
  have hsymm : Std.Symm (Function.onFun List.Disjoint fun tab : Tab => tab.panes.keys) :=
    ⟨fun _ _ hdisjoint => hdisjoint.symm⟩
  have hdisjoint := hnodup.2.forall htab hother hne
  exact hdisjoint (AList.mem_keys.mp hid) (AList.mem_keys.mp hid')

/-- The root of the active tab leads to the active tab wherever it stands. -/
lemma Workspace.findRoot_active (h : ws.AssertInvariants) {tabs : List Tab}
    (hperm : tabs.Perm ws.tabs) {active : Tab} (hactive : ws.activeTab? = some active) :
    ∃ i, (tabs.findIdx? fun tab => tab.rootPane = active.rootPane) = some i ∧
      tabs[i]? = some active := by
  have hmem : active ∈ ws.tabs := List.mem_of_getElem? hactive
  cases hfind : tabs.findIdx? fun tab => tab.rootPane = active.rootPane with
  | none =>
    have hnone := List.findIdx?_eq_none_iff.mp hfind active (hperm.mem_iff.mpr hmem)
    simp at hnone
  | some i =>
    obtain ⟨hlt, hroot, -⟩ := List.findIdx?_eq_some_iff_getElem.mp hfind
    have hfound : tabs[i] ∈ ws.tabs := hperm.mem_iff.mp (List.getElem_mem hlt)
    have hroot : tabs[i].rootPane = active.rootPane := by simpa using hroot
    have hsame : tabs[i] = active := by
      apply h.eq_of_mem_panes hfound hmem (h.tabs_valid _ hfound).root_mem
      rw [hroot]
      exact (h.tabs_valid _ hmem).root_mem
    exact ⟨i, rfl, by rw [List.getElem?_eq_getElem hlt, hsame]⟩

lemma Workspace.activeTab?_moveTab (h : ws.AssertInvariants) (sourceIdx insertIdx : Nat) :
    (ws.moveTab sourceIdx insertIdx).1.activeTab? = ws.activeTab? := by
  obtain ⟨active, hactive⟩ : ∃ active, ws.activeTab? = some active :=
    ⟨_, List.getElem?_eq_getElem (h.active_lt h.tabs_ne_nil)⟩
  unfold Workspace.moveTab
  cases ht : ws.tabs[sourceIdx]? with
  | none => rfl
  | some tab =>
    dsimp only
    have hsource := (List.getElem?_eq_some_iff.mp ht).1
    generalize hg : min (if sourceIdx < insertIdx then insertIdx - 1 else insertIdx)
      (ws.tabs.length - 1) = targetIdx
    have htarget : targetIdx ≤ ws.tabs.length - 1 := by omega
    split_ifs with h₁ h₂
    · rfl
    · rfl
    · have hlen : (ws.tabs.eraseIdx sourceIdx).length = ws.tabs.length - 1 :=
        List.length_eraseIdx_of_lt hsource
      have hperm : ((ws.tabs.eraseIdx sourceIdx).insertIdx targetIdx tab).Perm ws.tabs :=
        (List.perm_insertIdx tab _ (hlen ▸ htarget)).trans (perm_of_getElem? ht).symm
      obtain ⟨i, hfind, hi⟩ := findRoot_active h hperm hactive
      unfold Workspace.activeTab? at hactive ⊢
      rw [hactive]
      dsimp only
      rw [Option.map_some, Option.bind_some, hfind, Option.getD_some, hi]

/-- The tab of a pane is the one that is found. -/
lemma Workspace.Consistent.findTabIndexForPane_eq (h : ws.Consistent)
    (ht : ws.tabs[idx]? = some tab) {paneId : PaneId} (hid : paneId ∈ tab.panes) :
    ws.findTabIndexForPane paneId = some idx := by
  cases hfind : ws.findTabIndexForPane paneId with
  | none =>
    have hnone := List.findIdx?_eq_none_iff.mp hfind tab (List.mem_of_getElem? ht)
    simp only [hid, decide_true, Bool.true_eq_false] at hnone
  | some found =>
    obtain ⟨tab', ht', hid'⟩ := findTabIndexForPane_spec hfind
    have hsame : tab' = tab :=
      h.eq_of_mem_panes (List.mem_of_getElem? ht') (List.mem_of_getElem? ht) hid' hid
    have hlt' := (List.getElem?_eq_some_iff.mp ht').1
    have hnodup : ws.tabs.Nodup := h.tab_numbers_nodup.of_map
    have heq := (List.getElem?_inj hlt' hnodup).mp (ht'.trans (hsame ▸ ht.symm))
    rw [heq]

/-- Another tab changes in its place. -/
lemma Workspace.activeTab?_of_set {ws' : Workspace} {tab' : Tab} (hne : idx ≠ ws.activeTab)
    (htabs : ws'.tabs = ws.tabs.set idx tab') (hactive : ws'.activeTab = ws.activeTab) :
    ws'.activeTab? = ws.activeTab? := by
  unfold Workspace.activeTab?
  rw [htabs, hactive, List.getElem?_set_ne hne]

/-- Removing or closing a pane of another tab, the last one too, leaves the active tab. -/
lemma Workspace.activeTab?_detachPane (h : ws.AssertInvariants) (ht : ws.tabs[idx]? = some tab)
    (hne : idx ≠ ws.activeTab) {paneId : PaneId} (hid : paneId ∈ tab.panes) :
    ∃ ws' closes, ws.detachPaneWith Tab.detachPane paneId = some (ws', closes) ∧
      ws'.activeTab? = ws.activeTab? := by
  have hv := h.tabs_valid tab (List.mem_of_getElem? ht)
  have hidx := (List.getElem?_eq_some_iff.mp ht).1
  have hlt := h.active_lt h.tabs_ne_nil
  unfold Workspace.detachPaneWith
  rw [h.findTabIndexForPane_eq ht hid]
  dsimp only
  rw [ht]
  simp only [Option.bind_eq_bind, Option.bind_some]
  by_cases hc : tab.layout.paneCount ≤ 1
  · rw [if_pos hc, if_neg (by omega)]
    have htabs : (({ ws with tabs := ws.tabs.eraseIdx idx } : Workspace).unregisterPane
        paneId).tabs = ws.tabs.eraseIdx idx := rfl
    have hactive : (({ ws with tabs := ws.tabs.eraseIdx idx } : Workspace).unregisterPane
        paneId).activeTab = ws.activeTab := rfl
    rw [htabs, hactive]
    split_ifs with hlast hbefore
    · refine ⟨_, _, rfl, activeTab?_of_eraseIdx h ht hne rfl ?_⟩
      rw [if_pos hlast]
    · refine ⟨_, _, rfl, activeTab?_of_eraseIdx h ht hne rfl ?_⟩
      rw [if_neg hlast, if_pos hbefore]
    · refine ⟨_, _, rfl, activeTab?_of_eraseIdx h ht hne rfl ?_⟩
      rw [if_neg hlast, if_neg hbefore]
      rfl
  · obtain ⟨tab', terminalId, he, -, -, -⟩ := Tab.detachPane_spec hv hid (not_le.mp hc)
    rw [if_neg hc, he]
    exact ⟨_, _, rfl, activeTab?_of_set hne rfl rfl⟩

lemma Workspace.activeTab?_takePaneForMove (h : ws.AssertInvariants)
    (ht : ws.tabs[idx]? = some tab) (hne : idx ≠ ws.activeTab) {paneId : PaneId}
    (hid : paneId ∈ tab.panes) :
    ∃ ws' taken, ws.takePaneForMove paneId = some (ws', some taken) ∧
      taken.moved.paneId = paneId ∧ ws'.activeTab? = ws.activeTab? := by
  have hv := h.tabs_valid tab (List.mem_of_getElem? ht)
  have hidx := (List.getElem?_eq_some_iff.mp ht).1
  have hlt := h.active_lt h.tabs_ne_nil
  unfold Workspace.takePaneForMove
  rw [h.findTabIndexForPane_eq ht hid]
  dsimp only
  rw [ht]
  simp only [Option.bind_eq_bind, Option.bind_some]
  by_cases hc : tab.layout.paneCount ≤ 1
  · obtain ⟨pane, hpane⟩ := Option.isSome_iff_exists.mp (AList.lookup_isSome.mpr hid)
    rw [if_pos hc, Tab.takePaneForMove_last hc hpane]
    refine ⟨_, _, rfl, rfl, ?_⟩
    have hne' : ¬ (ws.tabs.eraseIdx idx).isEmpty := by
      rw [List.isEmpty_iff, ← List.length_eq_zero_iff, List.length_eraseIdx_of_lt hidx]
      omega
    unfold Workspace.adjustActiveTabAfterRemoval
    dsimp only
    rw [if_neg hne']
    split_ifs with hlast hbefore
    · apply activeTab?_of_eraseIdx h ht hne rfl
      rw [if_pos hlast]
    · apply activeTab?_of_eraseIdx h ht hne rfl
      rw [if_neg hlast, if_pos hbefore]
    · apply activeTab?_of_eraseIdx h ht hne rfl
      rw [if_neg hlast, if_neg hbefore]
  · obtain ⟨tab', moved, he, -, -, -, hmoved, -⟩ := Tab.takePaneForMove_spec hv hid (not_le.mp hc)
    rw [if_neg hc, he]
    exact ⟨_, _, rfl, hmoved, activeTab?_of_set hne rfl rfl⟩

/-- Whatever happens to a tab that is not active, the same tab stays active; so it does when the
active tab itself is moved. -/
theorem Workspace.activeTab?_edit (h : ws.AssertInvariants) :
    (∀ idx tab, ws.tabs[idx]? = some tab → idx ≠ ws.activeTab →
      (ws.closeTab idx).1.activeTab? = ws.activeTab? ∧
      (∀ insertIdx, (ws.moveTab idx insertIdx).1.activeTab? = ws.activeTab?) ∧
      ∀ paneId ∈ tab.panes,
        (∃ ws' closes, ws.removePane paneId = some (ws', closes) ∧
          ws'.activeTab? = ws.activeTab?) ∧
        (∃ ws' closes, ws.closePane paneId = some (ws', closes) ∧
          ws'.activeTab? = ws.activeTab?) ∧
        ∃ ws' taken, ws.takePaneForMove paneId = some (ws', some taken) ∧
          taken.moved.paneId = paneId ∧ ws'.activeTab? = ws.activeTab?) ∧
    (∀ insertIdx, (ws.moveTab ws.activeTab insertIdx).1.activeTab? = ws.activeTab?) ∧
    ∃ active, ws.activeTab? = some active := by
  refine ⟨fun idx tab ht hne => ⟨activeTab?_closeTab h ht hne, ?_, fun paneId hid => ?_⟩, ?_, ?_⟩
  · exact fun insertIdx => activeTab?_moveTab h idx insertIdx
  · have hdetach := activeTab?_detachPane h ht hne hid
    exact ⟨hdetach, hdetach, activeTab?_takePaneForMove h ht hne hid⟩
  · exact fun insertIdx => activeTab?_moveTab h ws.activeTab insertIdx
  · exact ⟨_, List.getElem?_eq_getElem (h.active_lt h.tabs_ne_nil)⟩

/-- A workspace with a second tab, whose only pane is pane 2. -/
def twoTabs : Workspace where
  id := "w1"
  customName := none
  worktreeSpace := none
  publicPaneNumbers := (AList.singleton ⟨1⟩ 1).insert ⟨2⟩ 2
  nextPublicPaneNumber := 3
  nextPublicTabNumber := 3
  tabs := [.fromExistingPane 1 none ⟨⟨1⟩, .new ⟨"t1"⟩⟩, .fromExistingPane 2 none ⟨⟨2⟩, .new ⟨"t2"⟩⟩]
  activeTab := 0

lemma twoTabs_assertInvariants : twoTabs.AssertInvariants := by
  have hcreated := Workspace.Created.fromExistingPane "w1" none none ⟨⟨1⟩, .new ⟨"t1"⟩⟩
  have hstep : WorkspaceOp.Step (.fromExistingPane "w1" none none ⟨⟨1⟩, .new ⟨"t1"⟩⟩)
      (.createTab ⟨2⟩ (some ⟨"t2"⟩)) twoTabs := by
    refine ⟨fun paneId spawned he => ?_, rfl⟩
    cases he
    exact ⟨by decide, by decide⟩
  exact ⟨(hstep.consistent hcreated.consistent).1, List.cons_ne_nil _ _⟩

/-- The second tab goes, moves to the front or loses its pane, or the first one moves behind it; the
first one stays active. -/
theorem Workspace.activeTab?_edit_twoTabs :
    (twoTabs.closeTab 1).1.activeTab? = twoTabs.activeTab? ∧
      (twoTabs.moveTab 1 0).1.activeTab? = twoTabs.activeTab? ∧
      (∃ ws' taken, twoTabs.takePaneForMove ⟨2⟩ = some (ws', some taken) ∧
        taken.moved.paneId = ⟨2⟩ ∧ ws'.activeTab? = twoTabs.activeTab?) ∧
      (twoTabs.moveTab 0 2).1.activeTab? = twoTabs.activeTab? := by
  obtain ⟨hother, hactive, -⟩ := activeTab?_edit twoTabs_assertInvariants
  obtain ⟨hclose, hmove, hpanes⟩ := hother 1 _ rfl (by decide)
  exact ⟨hclose, hmove 0, (hpanes ⟨2⟩ (by decide)).2.2, hactive 2⟩

end

/-! ### A split that fails -/

section
variable {newId : PaneId}

lemma removePane_of_notMem {n : Node} (hnew : newId ∉ n.collectIds) :
    n.removePane newId = some n := by
  induction n with
  | pane id =>
    have hne : id ≠ newId := by
      rintro rfl
      exact hnew (List.mem_singleton.mpr rfl)
    rw [Node.removePane, if_neg hne]
  | split d r first second ih₁ ih₂ =>
    rw [Node.collectIds, List.mem_append, not_or] at hnew
    simp only [Node.removePane, ih₁ hnew.1, ih₂ hnew.2]

/-- Taking out the leaf that a split has put in gives the tree back. -/
lemma removePane_splitAt {n : Node} (hnew : newId ∉ n.collectIds) (target : PaneId)
    (d : Direction) (r : ℚ) : (n.splitAt target d newId r).removePane newId = some n := by
  induction n with
  | pane id =>
    have hkeep := removePane_of_notMem hnew
    unfold Node.splitAt
    split_ifs with htarget
    · have hgone : (Node.pane newId).removePane newId = none := if_pos rfl
      subst htarget
      rw [Node.removePane, hkeep, hgone]
    · exact hkeep
  | split d' r' first second ih₁ ih₂ =>
    rw [Node.collectIds, List.mem_append, not_or] at hnew
    simp only [Node.splitAt, Node.removePane, ih₁ hnew.1, ih₂ hnew.2]

/-- The layout after a failed split, once the focus is back. -/
lemma closeFocused_splitFocused {l : TileLayout} (h : l.IdsValid) (hnew : newId ∉ l.paneIds)
    (d : Direction) (r : F32) :
    ∃ l', (l.splitFocusedWithRatio newId d r).1.closeFocused = some (l', true) ∧
      l'.root = l.root := by
  have hvalid := h.splitFocusedWithRatio hnew d r
  have hids := TileLayout.splitFocusedWithRatio_paneIds h newId d r
  rcases TileLayout.closeFocused_cases hvalid with ⟨hone, -⟩ | ⟨-, l', he, -, hroot, -⟩
  · have hlen := hids.length_eq
    have hpos := l.one_le_paneCount
    rw [List.length_cons, TileLayout.paneIds, TileLayout.paneIds, ← Node.countPanes_eq_length,
      ← Node.countPanes_eq_length] at hlen
    simp only [TileLayout.paneCount] at hone hpos
    omega
  · have hback := removePane_splitAt hnew l.focus d (validSplitRatio r)
    have hsame := hroot.symm.trans hback
    exact ⟨l', he, Option.some.inj hsame⟩

lemma focusPane_of_root {l l' : TileLayout} (hroot : l'.root = l.root)
    (hfocus : l.focus ∈ l.paneIds) : l'.focusPane l.focus = l := by
  have hmem : l.focus ∈ l'.paneIds := by
    rw [TileLayout.paneIds, hroot]
    exact hfocus
  rw [TileLayout.focusPane, if_pos hmem, hroot]

/-- The tab whose split fails focuses the split pane and is otherwise as before. -/
lemma Tab.splitFocusedWithRuntime_none {tab : Tab} (h : tab.Valid) (hnew : newId ∉ tab.panes)
    (d : Direction) (r : Option F32) :
    tab.splitFocusedWithRuntime newId d r none = some (tab, false) := by
  have hnew' := mt (h.layout_panes newId).mp hnew
  obtain ⟨l', he, hroot⟩ :=
    closeFocused_splitFocused h.idsValid hnew' d (r.getD (.finite (1 / 2)))
  have hback := focusPane_of_root hroot h.focus_mem
  simp only [Tab.splitFocusedWithRuntime, he, Option.bind_eq_bind, Option.bind_some, hback]

/-- A split whose terminal cannot be started leaves the workspace as it was. -/
theorem Workspace.splitPaneWithRuntime_failed {ws : Workspace} (h : ws.Consistent)
    (hnew : newId ∉ paneIds ws.tabs) (paneId : PaneId) (d : Direction) (r : Option F32)
    (focusNewPane : Bool) :
    ws.splitPaneWithRuntime paneId newId d r focusNewPane none =
      some (ws, (ws.findTabIndexForPane paneId).map fun idx => (idx, false)) := by
  unfold Workspace.splitPaneWithRuntime
  cases hfind : ws.findTabIndexForPane paneId with
  | none => rfl
  | some idx =>
    obtain ⟨tab, ht, hid⟩ := Workspace.findTabIndexForPane_spec hfind
    have hmem := List.mem_of_getElem? ht
    have hv := h.tabs_valid tab hmem
    have hnew' : newId ∉ tab.panes := fun hin => hnew (mem_paneIds.mpr ⟨tab, hmem, hin⟩)
    have hfailed := Tab.splitFocusedWithRuntime_none (hv.focusPane paneId) hnew' d r
    have hback : (tab.layout.focusPane paneId).focusPane tab.layout.focus = tab.layout :=
      focusPane_of_root (TileLayout.focusPane_root paneId) hv.focus_mem
    have hset : ws.tabs.set idx tab = ws.tabs := by
      obtain ⟨hlt, rfl⟩ := List.getElem?_eq_some_iff.mp ht
      exact List.set_getElem_self hlt
    dsimp only
    rw [ht]
    simp only [Option.bind_eq_bind, Option.bind_some, hfailed, Bool.not_false, Bool.true_or,
      if_true, hback, hset, Bool.false_eq_true, if_false, Option.map_some]

/-- Whether tabs are zoomed is not asserted. -/
lemma Workspace.Consistent.zoomTabs {ws : Workspace} (h : ws.Consistent) (zoomed : Tab → Bool) :
    Workspace.Consistent
      { ws with tabs := ws.tabs.map fun tab => { tab with zoomed := zoomed tab } } := by
  have hpanes : paneIds (ws.tabs.map fun tab => { tab with zoomed := zoomed tab }) =
      paneIds ws.tabs := List.flatMap_map ..
  have hterminals : terminalIds (ws.tabs.map fun tab => { tab with zoomed := zoomed tab }) =
      terminalIds ws.tabs := List.flatMap_map ..
  have htabs : ∀ tab' ∈ ws.tabs.map fun tab => { tab with zoomed := zoomed tab },
      tab'.Valid ∧ tab'.number < ws.nextPublicTabNumber := by
    intro tab' htab
    obtain ⟨tab, hmem, rfl⟩ := List.mem_map.mp htab
    have hv := h.tabs_valid tab hmem
    exact ⟨⟨hv.number_pos, hv.root_mem, hv.layout_nodup, hv.focus_mem, hv.layout_panes⟩,
      h.tab_number_lt tab hmem⟩
  exact {
    active_lt := fun hne => by
      rw [List.length_map]
      exact h.active_lt (mt List.map_eq_nil_iff.mpr hne)
    tabs_valid := fun tab htab => (htabs tab htab).1
    tab_numbers_nodup := by
      rw [List.map_map]
      exact h.tab_numbers_nodup
    panes_nodup := by
      rw [hpanes]
      exact h.panes_nodup
    terminals_nodup := by
      rw [hterminals]
      exact h.terminals_nodup
    next_tab_pos := h.next_tab_pos
    tab_number_lt := fun tab htab => (htabs tab htab).2
    public_iff := fun id => by
      rw [hpanes]
      exact h.public_iff id
    pane_number_pos := h.pane_number_pos
    pane_number_inj := h.pane_number_inj
    next_pane_pos := h.next_pane_pos
    pane_number_lt := h.pane_number_lt }

/-- The second tab is split and zoomed. -/
def zoomedSplit : Workspace :=
  let split := twoTabs.splitPaneWithRuntime ⟨2⟩ ⟨3⟩ .horizontal none true (some ⟨"t3"⟩)
  let ws := (split.map Prod.fst).getD twoTabs
  { ws with tabs := ws.tabs.map fun tab => { tab with zoomed := tab.layout.paneCount > 1 } }

lemma zoomedSplit_consistent : zoomedSplit.Consistent := by
  have hstep : WorkspaceOp.Step twoTabs
      (.splitPaneWithRuntime ⟨2⟩ ⟨3⟩ .horizontal none true (some ⟨"t3"⟩))
      (((twoTabs.splitPaneWithRuntime ⟨2⟩ ⟨3⟩ .horizontal none true (some ⟨"t3"⟩)).map
        Prod.fst).getD twoTabs) := by
    refine ⟨fun paneId spawned he => ?_, rfl⟩
    cases he
    exact ⟨by decide, by decide⟩
  have hlt : twoTabs.activeTab < twoTabs.tabs.length := by decide
  exact (hstep.consistent ⟨twoTabs_assertInvariants.toConsistent, .of_lt hlt⟩).1.zoomTabs _

/-- A pane of the zoomed tab is split, and the spawn fails. -/
theorem Workspace.splitPaneWithRuntime_failed_zoomed :
    (zoomedSplit.tabs.map (·.zoomed)) = [false, true] ∧
      zoomedSplit.splitPaneWithRuntime ⟨2⟩ ⟨4⟩ .vertical none true none =
        some (zoomedSplit, some (1, false)) :=
  ⟨by decide, splitPaneWithRuntime_failed zoomedSplit_consistent (by decide) ⟨2⟩ .vertical none true⟩

end

end Ork3.Workspaces
