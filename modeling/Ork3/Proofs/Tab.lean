import Ork3.Model.Workspace
import Ork3.Proofs.Layout

/-!
# What the tab operations do

Each operation that adds or drops a pane keeps the layout and the pane map in step.
-/

namespace Ork3.Workspaces
open Ork3.Library Ork3.Layout

lemma Tab.Valid.idsValid {tab : Tab} (h : tab.Valid) : tab.layout.IdsValid :=
  ⟨h.layout_nodup, h.focus_mem⟩

/-- A tab is valid as soon as its layout is, and agrees with the pane map. -/
lemma Tab.Valid.of_layout {tab : Tab} (hn : 0 < tab.number) (hr : tab.rootPane ∈ tab.panes)
    (hl : tab.layout.IdsValid) (hp : ∀ id, id ∈ tab.layout.paneIds ↔ id ∈ tab.panes) : tab.Valid :=
  ⟨hn, hr, hl.nodup, hl.focus_mem, hp⟩

/-! ### The terminals of a pane map -/

/-- The terminals attached to the panes of a map. -/
def terminalsOf (panes : Table PaneId PaneState) : List TerminalId :=
  panes.values.map PaneState.attachedTerminalId

section Panes
variable (panes : Table PaneId PaneState) (id : PaneId) (state : PaneState)

lemma keys_insert_of_notMem (hid : id ∉ panes) : (panes.insert id state).keys = id :: panes.keys := by
  rw [AList.keys_insert, List.erase_of_not_mem (mt AList.mem_keys.mpr hid)]

lemma terminalsOf_insert (hid : id ∉ panes) :
    terminalsOf (panes.insert id state) = state.attachedTerminalId :: terminalsOf panes := by
  simp only [terminalsOf, Table.values, AList.entries_insert_of_notMem hid, List.map_cons]

lemma terminalsOf_erase_sublist : (terminalsOf (panes.erase id)).Sublist (terminalsOf panes) := by
  have he : (panes.erase id).entries.Sublist panes.entries := List.kerase_sublist id panes.entries
  exact (he.map _).map _

end Panes

/-! ### Closing inside a layout -/

lemma closeInLayout_spec {l : TileLayout} (h : l.IdsValid) {id : PaneId} (hid : id ∈ l.paneIds)
    (hc : 1 < l.paneCount) :
    ∃ l', Tab.closeInLayout l id = some l' ∧ l'.IdsValid ∧
      l'.paneIds = l.paneIds.filter (fun other => other ≠ id) := by
  unfold Tab.closeInLayout
  by_cases hf : l.focus = id
  · rcases TileLayout.closeFocused_cases h with ⟨hone, -⟩ | ⟨-, l', he, hv, -, hids⟩
    · omega
    · refine ⟨l', ?_, hv, hf ▸ hids⟩
      rw [if_pos hf, he]
      rfl
  · have hfocus : (l.focusPane id).focus = id := TileLayout.focusPane_focus hid
    have hcount : (l.focusPane id).paneCount = l.paneCount := by
      rw [TileLayout.paneCount, TileLayout.focusPane_root, TileLayout.paneCount]
    rcases TileLayout.closeFocused_cases (h.focusPane id) with ⟨hone, -⟩ | ⟨-, l', he, hv, -, hids⟩
    · omega
    · refine ⟨l'.focusPane l.focus, ?_, hv.focusPane l.focus, ?_⟩
      · rw [if_neg hf, he]
        rfl
      · rw [TileLayout.focusPane_paneIds, hids, hfocus, TileLayout.focusPane_paneIds]

section Tab
variable {tab : Tab} (h : tab.Valid)
include h

/-- The tab without one of its panes is valid again once the root has been promoted. -/
lemma Tab.Valid.without {id : PaneId} {l : TileLayout} (hl : l.IdsValid)
    (hids : l.paneIds = tab.layout.paneIds.filter (fun other => other ≠ id)) :
    Tab.Valid { tab with
      layout := l
      panes := tab.panes.erase id
      zoomed := false
      rootPane := (tab.promotedRootIfNeeded id).getD tab.rootPane } := by
  refine .of_layout h.number_pos ?_ hl fun other => ?_
  · rw [AList.mem_erase]
    unfold promotedRootIfNeeded
    by_cases hr : tab.rootPane ≠ id
    · rw [if_pos hr]
      exact ⟨hr, h.root_mem⟩
    · rw [if_neg hr]
      have hne : l.paneIds ≠ [] := l.root.collectIds_ne_nil
      rw [hids] at hne
      obtain ⟨other, hother⟩ := List.exists_mem_of_ne_nil _ hne
      rw [List.mem_filter] at hother
      have hsome : (tab.layout.paneIds.find? fun other => other ≠ id).isSome :=
        List.find?_isSome.mpr ⟨other, hother⟩
      obtain ⟨next, hnext⟩ := Option.isSome_iff_exists.mp hsome
      rw [hnext, Option.getD_some]
      exact ⟨by simpa using List.find?_some hnext,
        (h.layout_panes next).mp (List.mem_of_find?_eq_some hnext)⟩
  · rw [hids, List.mem_filter, AList.mem_erase, h.layout_panes]
    simp only [decide_eq_true_eq]
    exact and_comm

/-- A tab with a single leaf has a single pane. -/
lemma Tab.eq_of_paneCount_le_one (hc : tab.layout.paneCount ≤ 1) {id other : PaneId}
    (hid : id ∈ tab.panes) (hother : other ∈ tab.panes) : other = id := by
  have hlen : tab.layout.paneIds.length = 1 := by
    rw [TileLayout.paneIds, ← Node.countPanes_eq_length]
    exact le_antisymm hc tab.layout.one_le_paneCount
  obtain ⟨leaf, hleaf⟩ := List.length_eq_one_iff.mp hlen
  rw [← h.layout_panes, hleaf, List.mem_singleton] at hid hother
  rw [hid, hother]

lemma Tab.detachPane_spec {id : PaneId} (hid : id ∈ tab.panes) (hc : 1 < tab.layout.paneCount) :
    ∃ tab' terminalId, tab.detachPane id = some (tab', some (id, terminalId)) ∧ tab'.Valid ∧
      tab'.number = tab.number ∧ tab'.panes = tab.panes.erase id := by
  obtain ⟨l, he, hl, hids⟩ := closeInLayout_spec h.idsValid ((h.layout_panes id).mpr hid) hc
  obtain ⟨pane, hpane⟩ := Option.isSome_iff_exists.mp (AList.lookup_isSome.mpr hid)
  refine ⟨_, pane.attachedTerminalId, ?_, h.without hl hids, rfl, rfl⟩
  rw [detachPane, if_neg (not_le.mpr hc), he]
  simp only [Option.bind_eq_bind, Option.bind_some, hpane]

lemma Tab.takePaneForMove_spec {id : PaneId} (hid : id ∈ tab.panes)
    (hc : 1 < tab.layout.paneCount) :
    ∃ tab' moved, tab.takePaneForMove id = some (tab', some moved) ∧ tab'.Valid ∧
      tab'.number = tab.number ∧ tab'.panes = tab.panes.erase id ∧ moved.paneId = id ∧
      tab.panes.lookup id = some moved.paneState := by
  obtain ⟨l, he, hl, hids⟩ := closeInLayout_spec h.idsValid ((h.layout_panes id).mpr hid) hc
  obtain ⟨pane, hpane⟩ := Option.isSome_iff_exists.mp (AList.lookup_isSome.mpr hid)
  refine ⟨_, ⟨id, pane⟩, ?_, h.without hl hids, rfl, rfl, rfl, hpane⟩
  rw [takePaneForMove, if_neg (not_not.mpr hid), if_pos hc, he]
  simp only [Option.bind_eq_bind, Option.bind_some, hpane]

omit h in
lemma Tab.takePaneForMove_last {id : PaneId} (hc : tab.layout.paneCount ≤ 1) {pane : PaneState}
    (hpane : tab.panes.lookup id = some pane) :
    tab.takePaneForMove id =
      some ({ tab with panes := tab.panes.erase id, zoomed := false }, some ⟨id, pane⟩) := by
  have hid : id ∈ tab.panes := AList.lookup_isSome.mp (by rw [hpane]; rfl)
  rw [takePaneForMove, if_neg (not_not.mpr hid), if_neg (not_lt.mpr hc)]
  simp only [Option.bind_eq_bind, Option.bind_some, hpane]

/-- The valid tab that shows one more pane. -/
lemma Tab.Valid.with_pane {id : PaneId} {state : PaneState} {l : TileLayout}
    (hl : l.IdsValid) (hids : l.paneIds.Perm (id :: tab.layout.paneIds)) :
    Tab.Valid { tab with layout := l, panes := tab.panes.insert id state, zoomed := false } := by
  refine .of_layout h.number_pos ?_ hl fun other => ?_
  · rw [AList.mem_insert]
    exact .inr h.root_mem
  · rw [hids.mem_iff, List.mem_cons, AList.mem_insert, h.layout_panes]

lemma Tab.splitFocusedWithRuntime_spawned {newId : PaneId} (hnew : newId ∉ tab.panes)
    (d : Direction) (r : Option F32) (terminalId : TerminalId) :
    ∃ tab', tab.splitFocusedWithRuntime newId d r (some terminalId) = some (tab', true) ∧
      tab'.Valid ∧ tab'.number = tab.number ∧
      tab'.panes = tab.panes.insert newId (.new terminalId) := by
  have hids := TileLayout.splitFocusedWithRatio_paneIds h.idsValid newId d (r.getD (.finite (1 / 2)))
  have hl := h.idsValid.splitFocusedWithRatio (mt (h.layout_panes newId).mp hnew) d
    (r.getD (.finite (1 / 2)))
  exact ⟨_, rfl, h.with_pane hl hids, rfl, rfl⟩

/-- When the spawn fails the new leaf is closed again. -/
lemma Tab.splitFocusedWithRuntime_failed {newId : PaneId} (hnew : newId ∉ tab.panes)
    (d : Direction) (r : Option F32) :
    ∃ tab', tab.splitFocusedWithRuntime newId d r none = some (tab', false) ∧
      tab'.Valid ∧ tab'.number = tab.number ∧ tab'.panes = tab.panes := by
  have hmem := mt (h.layout_panes newId).mp hnew
  have hids := TileLayout.splitFocusedWithRatio_paneIds h.idsValid newId d (r.getD (.finite (1 / 2)))
  have hl := h.idsValid.splitFocusedWithRatio hmem d (r.getD (.finite (1 / 2)))
  have hcount : (tab.layout.splitFocusedWithRatio newId d (r.getD (.finite (1 / 2)))).1.paneCount =
      tab.layout.paneCount + 1 := by
    have hlen := hids.length_eq
    rwa [List.length_cons, TileLayout.paneIds, TileLayout.paneIds, ← Node.countPanes_eq_length,
      ← Node.countPanes_eq_length] at hlen
  have hpos := tab.layout.one_le_paneCount
  rcases TileLayout.closeFocused_cases hl with ⟨hone, -⟩ | ⟨-, l, he, hl', -, hids'⟩
  · omega
  refine ⟨{ tab with layout := l.focusPane tab.layout.focus }, ?_,
    .of_layout h.number_pos h.root_mem (hl'.focusPane tab.layout.focus) ?_, rfl, rfl⟩
  · simp only [splitFocusedWithRuntime, he, Option.bind_eq_bind, Option.bind_some]
  · intro other
    have hfocus : (tab.layout.splitFocusedWithRatio newId d (r.getD (.finite (1 / 2)))).1.focus =
        newId := rfl
    rw [TileLayout.focusPane_paneIds, hids', List.mem_filter, hids.mem_iff, List.mem_cons, hfocus,
      h.layout_panes]
    simp only [decide_eq_true_eq]
    constructor
    · rintro ⟨heq | hother, hne⟩
      · exact absurd heq hne
      · exact hother
    · intro hother
      exact ⟨.inr hother, fun heq => hnew (heq ▸ hother)⟩

lemma Tab.insertExistingPane_cases (target : PaneId) (moved : MovedPane) (d : Direction)
    (r : F32) :
    tab.insertExistingPane target moved d r = (tab, none) ∨
    (moved.paneId ∉ tab.panes ∧ ∃ tab', tab.insertExistingPane target moved d r =
        (tab', some moved.paneId) ∧ tab'.Valid ∧ tab'.number = tab.number ∧
      tab'.panes = tab.panes.insert moved.paneId moved.paneState) := by
  unfold insertExistingPane
  cases hb : (tab.layout.insertPaneNear target moved.paneId d r).2 with
  | false =>
    refine .inl ?_
    have hl := TileLayout.insertPaneNear_refused hb
    simp only [hb, hl, Bool.false_eq_true, if_false]
  | true =>
    obtain ⟨hmem, hids⟩ := TileLayout.insertPaneNear_paneIds h.idsValid hb
    have hl := h.idsValid.insertPaneNear target moved.paneId d r
    refine .inr ⟨mt (h.layout_panes _).mpr hmem, _, ?_, h.with_pane hl hids, rfl, rfl⟩
    simp only [hb, if_true]

lemma Tab.Valid.focusPane (id : PaneId) :
    Tab.Valid { tab with layout := tab.layout.focusPane id } := by
  refine .of_layout h.number_pos h.root_mem (h.idsValid.focusPane id) fun other => ?_
  rw [TileLayout.focusPane_paneIds]
  exact h.layout_panes other

lemma Tab.Valid.markSeen : tab.markSeen.Valid := by
  refine .of_layout h.number_pos ?_ h.idsValid fun other => ?_
  · exact (Table.mem_map _ _ _).mpr h.root_mem
  · exact (h.layout_panes other).trans (Table.mem_map _ _ _).symm

end Tab

lemma Tab.fromExistingPane_valid {number : Nat} (hn : 0 < number) (label : Option String)
    (moved : MovedPane) : (Tab.fromExistingPane number label moved).Valid := by
  refine .of_layout hn ?_ ?_ fun other => ?_
  · exact AList.mem_keys.mpr (List.mem_singleton.mpr rfl)
  · exact ⟨List.nodup_singleton _, List.mem_singleton.mpr rfl⟩
  · exact Iff.rfl

end Ork3.Workspaces
