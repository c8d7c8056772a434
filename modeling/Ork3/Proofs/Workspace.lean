import Ork3.Library.Run
import Ork3.Proofs.WorkspaceChange

/-!
# Reachable workspaces

Every operation is a change in the sense of `Change`. The conditions of
`assert_invariants_for_test` follow for every reachable workspace, and so does the history of its
public numbers.
-/

namespace Ork3.Workspaces
open Ork3.Library Ork3.Layout

/-- The active tab is in range; where there is no tab it is 0, so that the next tab is active. -/
def Workspace.ActiveInRange (ws : Workspace) : Prop :=
  ws.activeTab < max 1 ws.tabs.length

lemma Workspace.ActiveInRange.of_lt {ws : Workspace} (h : ws.activeTab < ws.tabs.length) :
    ws.ActiveInRange :=
  lt_max_of_lt_right h

lemma Workspace.ActiveInRange.lt {ws : Workspace} (h : ws.ActiveInRange) (hne : ws.tabs ≠ []) :
    ws.activeTab < ws.tabs.length := by
  have hpos := List.length_pos_iff.mpr hne
  unfold Workspace.ActiveInRange at h
  omega

/-- The step from `ws` to `ws'` is a change that leaves the active tab in range. -/
def Changes (ws ws' : Workspace) : Prop :=
  (∃ before after rest, Change ws ws' before after rest) ∧ ws'.ActiveInRange

/-- The active tab plays no part in what a change is. -/
lemma Change.withActiveTab {ws ws' : Workspace} {before after rest : List Tab}
    (c : Change ws ws' before after rest) (idx : Nat) :
    Change ws { ws' with activeTab := idx } before after rest :=
  ⟨c.tabs, c.tabs', c.valid, c.numbers_nodup, c.number_origin, c.number_lt, c.next_tab_le,
    c.panes_nodup, c.pane_origin, c.terminals_nodup, c.terminal_origin, c.public_iff, c.registers⟩

lemma Change.changes {ws ws' : Workspace} {before after rest : List Tab}
    (c : Change ws ws' before after rest) (hactive : ws'.ActiveInRange) : Changes ws ws' :=
  ⟨⟨before, after, rest, c⟩, hactive⟩

lemma Workspace.findTabIndexForPane_spec {ws : Workspace} {id : PaneId} {idx : Nat}
    (hidx : ws.findTabIndexForPane id = some idx) :
    ∃ tab, ws.tabs[idx]? = some tab ∧ id ∈ tab.panes := by
  obtain ⟨hlt, hmem, -⟩ := List.findIdx?_eq_some_iff_getElem.mp hidx
  exact ⟨ws.tabs[idx], List.getElem?_eq_getElem hlt, by simpa using hmem⟩

/-- Replacing a tab keeps the active one in range. -/
lemma active_lt_set {ws : Workspace} {idx : Nat} {tab : Tab}
    (h : ws.activeTab < ws.tabs.length) : ws.activeTab < (ws.tabs.set idx tab).length := by
  rw [List.length_set]
  exact h

/-- Unregistering several panes only removes their numbers. -/
lemma foldl_unregisterPane (ids : List PaneId) (ws : Workspace) :
    ids.foldl Workspace.unregisterPane ws =
      { ws with publicPaneNumbers := (ids.foldl Workspace.unregisterPane ws).publicPaneNumbers } ∧
    ∀ id, (ids.foldl Workspace.unregisterPane ws).publicPaneNumbers.lookup id =
      if id ∈ ids then none else ws.publicPaneNumbers.lookup id := by
  induction ids generalizing ws with
  | nil => exact ⟨rfl, fun id => by simp⟩
  | cons first ids ih =>
    obtain ⟨heq, hlookup⟩ := ih (ws.unregisterPane first)
    refine ⟨?_, fun id => ?_⟩
    · rw [List.foldl_cons, heq]
      rfl
    · rw [List.foldl_cons, hlookup]
      by_cases hid : id ∈ ids
      · simp [hid]
      by_cases he : id = first
      · rw [if_neg hid, he, Workspace.unregisterPane, AList.lookup_erase]
        simp
      · simp [hid, he, Workspace.unregisterPane, AList.lookup_erase_ne]

section Steps
variable {ws : Workspace} (h : ws.Consistent) (ha : ws.ActiveInRange)
include h

lemma Workspace.Consistent.active_lt_of_getElem? {idx : Nat} {tab : Tab}
    (ht : ws.tabs[idx]? = some tab) : ws.activeTab < ws.tabs.length :=
  h.active_lt (List.ne_nil_of_mem (List.mem_of_getElem? ht))

lemma Changes.createTab {rootId : PaneId} {spawned : Option TerminalId}
    (hpane : rootId ∉ paneIds ws.tabs)
    (hterm : ∀ terminalId ∈ spawned, terminalId ∉ terminalIds ws.tabs) :
    (ws.createTab rootId spawned = none ∧ ws.tabs = []) ∨
    ∃ ws' created, ws.createTab rootId spawned = some (ws', created) ∧ Changes ws ws' := by
  unfold Workspace.createTab
  dsimp only
  cases htab : ws.tabs[ws.activeTab]? with
  | none =>
    refine .inl ⟨rfl, ?_⟩
    by_contra hne
    exact absurd (h.active_lt hne) (not_lt.mpr (List.getElem?_eq_none_iff.mp htab))
  | some active =>
    have hactive := h.active_lt_of_getElem? htab
    cases spawned with
    | none =>
      refine .inr ⟨_, _, rfl, ⟨[], [], ws.tabs, ?_⟩, .of_lt hactive⟩
      exact Change.keep h (List.Perm.refl _) rfl rfl (Nat.le_succ _)
    | some terminalId =>
      refine .inr ⟨_, _, rfl, ⟨[], [.fromExistingPane ws.nextPublicTabNumber none
        ⟨rootId, .new terminalId⟩], ws.tabs, ?_⟩, .of_lt ?_⟩
      · refine Change.add h rfl hpane (hterm terminalId rfl) List.perm_append_comm rfl ?_ rfl
        exact Nat.max_eq_right (Nat.le_succ _)
      · rw [List.length_append]
        exact Nat.lt_add_right 1 hactive

/-- The three ways the active index follows the removal of a tab all leave it in range. -/
lemma Changes.of_drop {ws' : Workspace} {tab : Tab} {idx : Nat} (ht : ws.tabs[idx]? = some tab)
    (c : Change ws ws' [tab] [] (ws.tabs.eraseIdx idx)) (ht' : ws'.tabs = ws.tabs.eraseIdx idx)
    (hactive : ws'.activeTab = ws.activeTab) :
    (ws'.tabs ≠ [] → Changes ws { ws' with activeTab := ws'.tabs.length - 1 }) ∧
    (ws'.activeTab > 0 → Changes ws { ws' with activeTab := ws'.activeTab - 1 }) ∧
    (ws'.activeTab < ws'.tabs.length → Changes ws ws') := by
  have hlt := h.active_lt_of_getElem? ht
  have hlen : ws'.tabs.length + 1 = ws.tabs.length := by
    rw [ht', List.length_eraseIdx_of_lt (List.getElem?_eq_some_iff.mp ht).1]
    omega
  refine ⟨fun hne => ?_, fun hpos => ?_, fun hin => ?_⟩
  · refine Change.changes (c.withActiveTab _) (.of_lt ?_)
    exact Nat.sub_lt (List.length_pos_iff.mpr hne) one_pos
  · refine Change.changes (c.withActiveTab _) (.of_lt ?_)
    change ws'.activeTab - 1 < ws'.tabs.length
    omega
  · exact c.changes (.of_lt hin)

/-- The only pane of a tab takes the tab with it. -/
lemma Change.drop_last {tab : Tab} {idx : Nat} (ht : ws.tabs[idx]? = some tab) {id : PaneId}
    (hid : id ∈ tab.panes) (hc : tab.layout.paneCount ≤ 1) :
    Change ws (({ ws with tabs := ws.tabs.eraseIdx idx } : Workspace).unregisterPane id) [tab] []
      (ws.tabs.eraseIdx idx) := by
  have hv := h.tabs_valid tab (List.mem_of_getElem? ht)
  refine Change.drop h ht rfl (fun other => ?_) rfl rfl
  change (ws.publicPaneNumbers.erase id).lookup other = _
  by_cases hother : other ∈ tab.panes
  · rw [if_pos hother, Tab.eq_of_paneCount_le_one hv hc hid hother, AList.lookup_erase]
  · have hne : other ≠ id := fun he => hother (he ▸ hid)
    rw [if_neg hother, AList.lookup_erase_ne hne]

include ha

lemma Changes.refl : Changes ws ws :=
  (Change.keep h (List.Perm.refl _) rfl rfl le_rfl).changes ha

lemma Changes.switchTab (idx : Nat) : Changes ws (ws.switchTab idx) := by
  unfold Workspace.switchTab
  by_cases hidx : idx < ws.tabs.length
  · rw [if_pos hidx]
    have ht : ws.tabs[idx]? = some ws.tabs[idx] := List.getElem?_eq_getElem hidx
    have hmodify : ws.tabs.modify idx Tab.markSeen = ws.tabs.set idx ws.tabs[idx].markSeen := by
      rw [List.modify_eq_set_getElem?, ht]
      rfl
    have hv := (h.tabs_valid _ (List.mem_of_getElem? ht)).markSeen
    refine Change.changes
      (Change.touch h ht hv rfl ?_ rfl (fun id => Table.mem_map _ _ id) ?_ rfl rfl) (.of_lt ?_)
    · exact hmodify
    · rw [terminalsOf, Tab.markSeen, Table.values_map, List.map_map]
      rfl
    · simpa using hidx
  · rw [if_neg hidx]
    exact .refl h ha

lemma Changes.closeTab (idx : Nat) : Changes ws (ws.closeTab idx).1 := by
  unfold Workspace.closeTab
  cases ht : ws.tabs[idx]? with
  | none => exact .refl h ha
  | some tab =>
    dsimp only
    by_cases hone : ws.tabs.length ≤ 1
    · rw [if_pos hone]
      exact .refl h ha
    rw [if_neg hone]
    obtain ⟨heq, hlookup⟩ := foldl_unregisterPane tab.panes.keys
      { ws with tabs := ws.tabs.eraseIdx idx }
    generalize tab.panes.keys.foldl Workspace.unregisterPane
      { ws with tabs := ws.tabs.eraseIdx idx } = ws' at heq hlookup ⊢
    have ht' : ws'.tabs = ws.tabs.eraseIdx idx := by rw [heq]
    have hactive : ws'.activeTab = ws.activeTab := by rw [heq]
    have c : Change ws ws' [tab] [] (ws.tabs.eraseIdx idx) :=
      Change.drop h ht ht' (fun id => (hlookup id).trans (if_congr AList.mem_keys.symm rfl rfl))
        (by rw [heq]) (by rw [heq])
    have hne : ws'.tabs ≠ [] := by
      rw [ht', ← List.length_pos_iff,
        List.length_eraseIdx_of_lt (List.getElem?_eq_some_iff.mp ht).1]
      omega
    obtain ⟨hlast, hprev, hsame⟩ := Changes.of_drop h ht c ht' hactive
    split_ifs with h₁ h₂
    · exact hlast hne
    · exact hprev h₂.2
    · exact hsame (not_le.mp h₁)

lemma Changes.moveTab (sourceIdx insertIdx : Nat) :
    Changes ws (ws.moveTab sourceIdx insertIdx).1 := by
  unfold Workspace.moveTab
  cases ht : ws.tabs[sourceIdx]? with
  | none => exact .refl h ha
  | some tab =>
    dsimp only
    have hsource := (List.getElem?_eq_some_iff.mp ht).1
    generalize hg : min (if sourceIdx < insertIdx then insertIdx - 1 else insertIdx)
      (ws.tabs.length - 1) = targetIdx
    have htarget : targetIdx ≤ ws.tabs.length - 1 := by omega
    split_ifs with h₁ h₂
    · exact .refl h ha
    · exact .refl h ha
    · have hlen : (ws.tabs.eraseIdx sourceIdx).length = ws.tabs.length - 1 :=
        List.length_eraseIdx_of_lt hsource
      have hperm : ((ws.tabs.eraseIdx sourceIdx).insertIdx targetIdx tab).Perm ws.tabs :=
        (List.perm_insertIdx tab _ (hlen ▸ htarget)).trans (perm_of_getElem? ht).symm
      refine Change.changes (Change.keep h hperm rfl rfl le_rfl) (.of_lt ?_)
      have hlen' := hperm.length_eq
      dsimp only
      rw [hlen']
      cases hfind : (ws.tabs[ws.activeTab]?.map Tab.rootPane).bind fun rootPane =>
          ((ws.tabs.eraseIdx sourceIdx).insertIdx targetIdx tab).findIdx?
            fun tab => tab.rootPane = rootPane with
      | none =>
        rw [Option.getD_none]
        omega
      | some found =>
        obtain ⟨root, -, hfound⟩ := Option.bind_eq_some_iff.mp hfind
        rw [Option.getD_some, ← hlen']
        exact (List.findIdx?_eq_some_iff_getElem.mp hfound).1

lemma Changes.splitPaneWithRuntime {paneId newId : PaneId} (d : Direction) (r : Option F32)
    (focusNewPane : Bool) {spawned : Option TerminalId} (hpane : newId ∉ paneIds ws.tabs)
    (hterm : ∀ terminalId ∈ spawned, terminalId ∉ terminalIds ws.tabs) :
    ∃ ws' result, ws.splitPaneWithRuntime paneId newId d r focusNewPane spawned =
      some (ws', result) ∧ Changes ws ws' := by
  unfold Workspace.splitPaneWithRuntime
  cases hfind : ws.findTabIndexForPane paneId with
  | none => exact ⟨_, _, rfl, .refl h ha⟩
  | some idx =>
    obtain ⟨tab, ht, -⟩ := Workspace.findTabIndexForPane_spec hfind
    have hactive := h.active_lt_of_getElem? ht
    have hmem := List.mem_of_getElem? ht
    have hv := h.tabs_valid tab hmem
    have hnew : newId ∉ tab.panes := fun hin => hpane (mem_paneIds.mpr ⟨tab, hmem, hin⟩)
    dsimp only
    rw [ht]
    simp only [Option.bind_eq_bind, Option.bind_some]
    cases spawned with
    | none =>
      obtain ⟨tab', he, hv', hnum, hpanes⟩ :=
        Tab.splitFocusedWithRuntime_failed (hv.focusPane paneId) hnew d r
      rw [he]
      refine ⟨_, _, rfl, ⟨[tab], [{ tab' with layout := tab'.layout.focusPane tab.layout.focus }],
        ws.tabs.eraseIdx idx, ?_⟩, .of_lt ?_⟩
      · refine Change.touch h ht (hv'.focusPane _) hnum rfl rfl (fun id => ?_) ?_ rfl rfl
        · rw [hpanes]
        · rw [hpanes]
      · exact active_lt_set hactive
    | some terminalId =>
      obtain ⟨tab', he, hv', hnum, hpanes⟩ :=
        Tab.splitFocusedWithRuntime_spawned (hv.focusPane paneId) hnew d r terminalId
      rw [he]
      have hgain : ∀ final : Tab, final.Valid → final.number = tab.number →
          final.panes = tab.panes.insert newId (.new terminalId) →
          Changes ws (({ ws with tabs := ws.tabs.set idx final } :
            Workspace).registerNewPaneWithNumber newId ws.nextPublicPaneNumber) := by
        intro final hfinal hnum' hpanes'
        refine ⟨⟨[tab], [final], ws.tabs.eraseIdx idx, ?_⟩, .of_lt ?_⟩
        · refine Change.gain h ht hfinal hnum' rfl rfl hpanes' hpane (hterm terminalId rfl) rfl ?_
          exact Nat.max_eq_right (Nat.le_succ _)
        · exact active_lt_set hactive
      cases focusNewPane with
      | false => exact ⟨_, _, rfl, hgain _ (hv'.focusPane tab.layout.focus) hnum hpanes⟩
      | true => exact ⟨_, _, rfl, hgain _ hv' hnum hpanes⟩

lemma Changes.detachPane (paneId : PaneId) :
    ∃ ws' closes, ws.detachPaneWith Tab.detachPane paneId = some (ws', closes) ∧ Changes ws ws' := by
  unfold Workspace.detachPaneWith
  cases hfind : ws.findTabIndexForPane paneId with
  | none => exact ⟨_, _, rfl, .refl h ha⟩
  | some idx =>
    obtain ⟨tab, ht, hid⟩ := Workspace.findTabIndexForPane_spec hfind
    have hv := h.tabs_valid tab (List.mem_of_getElem? ht)
    dsimp only
    rw [ht]
    simp only [Option.bind_eq_bind, Option.bind_some]
    by_cases hc : tab.layout.paneCount ≤ 1
    · rw [if_pos hc]
      by_cases hone : ws.tabs.length ≤ 1
      · rw [if_pos hone]
        exact ⟨_, _, rfl, .refl h ha⟩
      rw [if_neg hone]
      have c := Change.drop_last h ht hid hc
      have hne : ws.tabs.eraseIdx idx ≠ [] := by
        rw [← List.length_pos_iff, List.length_eraseIdx_of_lt (List.getElem?_eq_some_iff.mp ht).1]
        omega
      obtain ⟨hlast, hprev, hsame⟩ := Changes.of_drop h ht c rfl rfl
      split_ifs with h₁ h₂
      · exact ⟨_, _, rfl, hlast hne⟩
      · exact ⟨_, _, rfl, hprev h₂.2⟩
      · exact ⟨_, _, rfl, hsame (not_le.mp h₁)⟩
    · obtain ⟨tab', terminalId, he, hv', hnum, hpanes⟩ := Tab.detachPane_spec hv hid (not_le.mp hc)
      rw [if_neg hc, he]
      refine ⟨_, _, rfl, ⟨[tab], [tab'], ws.tabs.eraseIdx idx, ?_⟩, .of_lt ?_⟩
      · exact Change.lose h ht hv' hnum rfl rfl hid hpanes rfl rfl
      · exact active_lt_set (h.active_lt_of_getElem? ht)

lemma Changes.takePaneForMove (paneId : PaneId) :
    ∃ ws' taken, ws.takePaneForMove paneId = some (ws', taken) ∧
      Changes ws (taken.elim ws' fun taken => ws'.unregisterMovedPane taken.moved.paneId) := by
  unfold Workspace.takePaneForMove
  cases hfind : ws.findTabIndexForPane paneId with
  | none => exact ⟨_, _, rfl, .refl h ha⟩
  | some idx =>
    obtain ⟨tab, ht, hid⟩ := Workspace.findTabIndexForPane_spec hfind
    have hv := h.tabs_valid tab (List.mem_of_getElem? ht)
    dsimp only
    rw [ht]
    simp only [Option.bind_eq_bind, Option.bind_some]
    by_cases hc : tab.layout.paneCount ≤ 1
    · obtain ⟨pane, hpane⟩ := Option.isSome_iff_exists.mp (AList.lookup_isSome.mpr hid)
      rw [if_pos hc, Tab.takePaneForMove_last hc hpane]
      refine ⟨_, _, rfl, ?_⟩
      have c := Change.drop_last h ht hid hc
      obtain ⟨hlast, hprev, hsame⟩ := Changes.of_drop h ht c rfl rfl
      unfold Workspace.adjustActiveTabAfterRemoval
      split_ifs with h₀ h₁ h₂
      · exact ⟨⟨_, _, _, c.withActiveTab 0⟩, lt_max_of_lt_left one_pos⟩
      · exact hlast fun hnil => h₀ (List.isEmpty_iff.mpr hnil)
      · exact hprev h₂.2
      · exact hsame (not_le.mp h₁)
    · obtain ⟨tab', moved, he, hv', hnum, hpanes, hmoved, -⟩ :=
        Tab.takePaneForMove_spec hv hid (not_le.mp hc)
      rw [if_neg hc, he]
      subst hmoved
      refine ⟨_, _, rfl, ⟨[tab], [tab'], ws.tabs.eraseIdx idx, ?_⟩, .of_lt ?_⟩
      · exact Change.lose h ht hv' hnum rfl rfl hid hpanes rfl rfl
      · exact active_lt_set (h.active_lt_of_getElem? ht)

section Moved
variable {moved : MovedPane} (hpane : moved.paneId ∉ paneIds ws.tabs)
  (hterm : moved.paneState.attachedTerminalId ∉ terminalIds ws.tabs)
include hpane hterm

lemma Changes.insertMovedPaneIntoTab (tabIdx : Nat) (target : PaneId) (d : Direction) (r : F32) :
    Changes ws (ws.insertMovedPaneIntoTab tabIdx target moved d r).1 := by
  unfold Workspace.insertMovedPaneIntoTab
  cases ht : ws.tabs[tabIdx]? with
  | none => exact .refl h ha
  | some tab =>
    have hactive := h.active_lt_of_getElem? ht
    have hv := h.tabs_valid tab (List.mem_of_getElem? ht)
    have hpublic : moved.paneId ∉ ws.publicPaneNumbers := mt (h.public_iff _).mp hpane
    dsimp only
    rcases Tab.insertExistingPane_cases hv target moved d r with he | ⟨-, tab', he, hv', hnum, hpanes⟩
    · rw [he]
      refine ⟨⟨[tab], [tab], ws.tabs.eraseIdx tabIdx, ?_⟩, .of_lt ?_⟩
      · exact Change.touch h ht hv rfl rfl rfl (fun _ => Iff.rfl) rfl rfl rfl
      · exact active_lt_set hactive
    · rw [he]
      dsimp only
      rw [if_pos hpublic]
      refine ⟨⟨[tab], [tab'], ws.tabs.eraseIdx tabIdx, ?_⟩, .of_lt ?_⟩
      · refine Change.gain h ht hv' hnum rfl rfl hpanes hpane hterm rfl ?_
        exact Nat.max_eq_right (Nat.le_succ _)
      · exact active_lt_set hactive

lemma Changes.createTabFromExistingPane (label : Option String) :
    Changes ws (ws.createTabFromExistingPane moved label).1 := by
  have hpublic : moved.paneId ∉ ws.publicPaneNumbers := mt (h.public_iff _).mp hpane
  unfold Workspace.createTabFromExistingPane
  dsimp only
  rw [if_pos hpublic]
  refine ⟨⟨[], [.fromExistingPane ws.nextPublicTabNumber label moved], ws.tabs, ?_⟩, .of_lt ?_⟩
  · refine Change.add h rfl hpane hterm List.perm_append_comm rfl ?_ rfl
    exact Nat.max_eq_right (Nat.le_succ _)
  · change ws.activeTab < (ws.tabs ++ _).length
    rw [List.length_append, List.length_singleton]
    unfold Workspace.ActiveInRange at ha
    omega

end Moved

end Steps

/-! ### Runs -/

inductive WorkspaceOp where
  | createTab (rootId : PaneId) (spawned : Option TerminalId)
  | splitPaneWithRuntime (paneId newId : PaneId) (direction : Direction) (ratio : Option F32)
      (focusNewPane : Bool) (spawned : Option TerminalId)
  | closeTab (idx : Nat)
  | moveTab (sourceIdx insertIdx : Nat)
  | switchTab (idx : Nat)
  | removePane (paneId : PaneId)
  | closePane (paneId : PaneId)
  /-- `take_pane_for_move` followed by `unregister_moved_pane`. -/
  | takePaneForMove (paneId : PaneId)
  | insertMovedPaneIntoTab (tabIdx : Nat) (targetPaneId : PaneId) (moved : MovedPane)
      (direction : Direction) (ratio : F32)
  | createTabFromExistingPane (moved : MovedPane) (label : Option String)

namespace WorkspaceOp

/-- The pane and the terminals an operation brings into the workspace. -/
def brings : WorkspaceOp → Option (PaneId × Option TerminalId)
  | .createTab rootId spawned => some (rootId, spawned)
  | .splitPaneWithRuntime _ newId _ _ _ spawned => some (newId, spawned)
  | .insertMovedPaneIntoTab _ _ moved _ _ =>
    some (moved.paneId, some moved.paneState.attachedTerminalId)
  | .createTabFromExistingPane moved _ =>
    some (moved.paneId, some moved.paneState.attachedTerminalId)
  | _ => none

/-- The allocators return ids that no live pane has, and a moved pane has left its tab: a
`MovedPane` is only made by taking the pane out, and cannot be cloned. -/
def Admissible (ws : Workspace) (op : WorkspaceOp) : Prop :=
  ∀ paneId spawned, op.brings = some (paneId, spawned) →
    paneId ∉ paneIds ws.tabs ∧ ∀ terminalId ∈ spawned, terminalId ∉ terminalIds ws.tabs

/-- The workspace after the operation; `none` is a panic. -/
def apply (ws : Workspace) : WorkspaceOp → Option Workspace
  | .createTab rootId spawned => (ws.createTab rootId spawned).map Prod.fst
  | .splitPaneWithRuntime paneId newId d r focusNewPane spawned =>
    (ws.splitPaneWithRuntime paneId newId d r focusNewPane spawned).map Prod.fst
  | .closeTab idx => some (ws.closeTab idx).1
  | .moveTab sourceIdx insertIdx => some (ws.moveTab sourceIdx insertIdx).1
  | .switchTab idx => some (ws.switchTab idx)
  | .removePane paneId => (ws.removePane paneId).map Prod.fst
  | .closePane paneId => (ws.closePane paneId).map Prod.fst
  | .takePaneForMove paneId => (ws.takePaneForMove paneId).map fun (ws', taken) =>
    taken.elim ws' fun taken => ws'.unregisterMovedPane taken.moved.paneId
  | .insertMovedPaneIntoTab tabIdx target moved d r =>
    some (ws.insertMovedPaneIntoTab tabIdx target moved d r).1
  | .createTabFromExistingPane moved label => some (ws.createTabFromExistingPane moved label).1

/-- An admissible operation takes `ws` to `ws'`. -/
def Step (ws : Workspace) (op : WorkspaceOp) (ws' : Workspace) : Prop :=
  op.Admissible ws ∧ op.apply ws = some ws'

/-- One operation: a change, or the panic of a new tab in a workspace without tabs. -/
theorem apply_spec {ws : Workspace} (h : ws.Consistent) (ha : ws.ActiveInRange) {op : WorkspaceOp}
    (hop : op.Admissible ws) :
    (op.apply ws = none ∧ ws.tabs = [] ∧ ∃ rootId spawned, op = .createTab rootId spawned) ∨
    ∃ ws', op.apply ws = some ws' ∧ Changes ws ws' := by
  cases op with
  | createTab rootId spawned =>
    obtain ⟨hpane, hterm⟩ := hop rootId spawned rfl
    rcases Changes.createTab h hpane hterm with ⟨he, hnil⟩ | ⟨ws', created, he, hc⟩
    · exact .inl ⟨by rw [apply, he]; rfl, hnil, rootId, spawned, rfl⟩
    · exact .inr ⟨ws', by rw [apply, he]; rfl, hc⟩
  | splitPaneWithRuntime paneId newId d r focusNewPane spawned =>
    obtain ⟨hpane, hterm⟩ := hop newId spawned rfl
    obtain ⟨ws', result, he, hc⟩ :=
      Changes.splitPaneWithRuntime h ha d r focusNewPane hpane hterm
    exact .inr ⟨ws', by rw [apply, he]; rfl, hc⟩
  | closeTab idx => exact .inr ⟨_, rfl, .closeTab h ha idx⟩
  | moveTab sourceIdx insertIdx => exact .inr ⟨_, rfl, .moveTab h ha sourceIdx insertIdx⟩
  | switchTab idx => exact .inr ⟨_, rfl, .switchTab h ha idx⟩
  | removePane paneId =>
    obtain ⟨ws', closes, he, hc⟩ := Changes.detachPane h ha paneId
    exact .inr ⟨ws', congrArg (Option.map Prod.fst) he, hc⟩
  | closePane paneId =>
    obtain ⟨ws', closes, he, hc⟩ := Changes.detachPane h ha paneId
    exact .inr ⟨ws', congrArg (Option.map Prod.fst) he, hc⟩
  | takePaneForMove paneId =>
    obtain ⟨ws', taken, he, hc⟩ := Changes.takePaneForMove h ha paneId
    exact .inr ⟨_, by rw [apply, he]; rfl, hc⟩
  | insertMovedPaneIntoTab tabIdx target moved d r =>
    obtain ⟨hpane, hterm⟩ := hop moved.paneId _ rfl
    exact .inr ⟨_, rfl, .insertMovedPaneIntoTab h ha hpane (hterm _ rfl) tabIdx target d r⟩
  | createTabFromExistingPane moved label =>
    obtain ⟨hpane, hterm⟩ := hop moved.paneId _ rfl
    exact .inr ⟨_, rfl, .createTabFromExistingPane h ha hpane (hterm _ rfl) label⟩

end WorkspaceOp

/-- The workspaces a user, a restored layout or a moved pane starts from. -/
inductive Workspace.Created : Workspace → Prop
  | new {id : String} {rootId : PaneId} {spawned : Option TerminalId} {ws : Workspace} :
    Workspace.new id rootId spawned = some ws → Created ws
  | fromExistingPane (id : String) (label tabLabel : Option String) (moved : MovedPane) :
    Created (.fromExistingPane id label tabLabel moved)

/-- The tab `tab` of the first workspace is, through all steps in between, the tab `tab'` of the
last one. -/
inductive LivesOn : Workspace → Tab → List WorkspaceOp → Workspace → Tab → Prop
  | here {ws : Workspace} {tab : Tab} : tab ∈ ws.tabs → LivesOn ws tab [] ws tab
  | step {ws mid ws' : Workspace} {tab next tab' : Tab} {op : WorkspaceOp} {ops : List WorkspaceOp} :
    tab ∈ ws.tabs → WorkspaceOp.Step ws op mid → tab.Continues next →
    LivesOn mid next ops ws' tab' → LivesOn ws tab (op :: ops) ws' tab'

section Reachable

lemma Workspace.fromExistingPane_consistent (id : String) (label tabLabel : Option String)
    (moved : MovedPane) : (Workspace.fromExistingPane id label tabLabel moved).Consistent := by
  have hlookup : ∀ other n, (AList.singleton moved.paneId 1 : Table PaneId Nat).lookup other =
      some n → other = moved.paneId ∧ n = 1 := by
    intro other n hother
    have hmem := AList.mem_lookup_iff.mp hother
    rw [AList.singleton_entries, List.mem_singleton, Sigma.mk.injEq] at hmem
    exact ⟨hmem.1, eq_of_heq hmem.2⟩
  have hv := Tab.fromExistingPane_valid one_pos tabLabel moved
  exact {
    active_lt := fun _ => one_pos
    tabs_valid := fun tab ht => List.mem_singleton.mp ht ▸ hv
    tab_numbers_nodup := List.nodup_singleton _
    panes_nodup := List.nodup_singleton _
    terminals_nodup := List.nodup_singleton _
    next_tab_pos := two_pos
    tab_number_lt := fun tab ht => List.mem_singleton.mp ht ▸ one_lt_two
    public_iff := fun other => Iff.rfl
    pane_number_pos := fun other n hn => (hlookup other n hn).2 ▸ one_pos
    pane_number_inj := fun other other' n hn hn' =>
      (hlookup other n hn).1.trans (hlookup other' n hn').1.symm
    next_pane_pos := two_pos
    pane_number_lt := fun other n hn => (hlookup other n hn).2 ▸ one_lt_two }

lemma Workspace.Created.consistent {ws : Workspace} (h : ws.Created) :
    ws.Consistent ∧ ws.ActiveInRange := by
  cases h with
  | fromExistingPane id label tabLabel moved =>
    exact ⟨fromExistingPane_consistent id label tabLabel moved, .of_lt one_pos⟩
  | @new id rootId spawned ws he =>
    cases spawned with
    | none => cases he
    | some terminalId =>
      cases he
      exact ⟨fromExistingPane_consistent id none none ⟨rootId, .new terminalId⟩, .of_lt one_pos⟩

variable {ws₀ ws ws' : Workspace} {ops ops' : List WorkspaceOp} {op : WorkspaceOp}

lemma WorkspaceOp.Step.changes (hs : WorkspaceOp.Step ws op ws') (h : ws.Consistent)
    (ha : ws.ActiveInRange) : Changes ws ws' := by
  rcases op.apply_spec h ha hs.1 with ⟨he, -⟩ | ⟨ws₁, he, hc⟩
  · rw [hs.2] at he
    cases he
  · rw [hs.2, Option.some.injEq] at he
    exact he ▸ hc

lemma WorkspaceOp.Step.consistent (hs : WorkspaceOp.Step ws op ws')
    (h : ws.Consistent ∧ ws.ActiveInRange) : ws'.Consistent ∧ ws'.ActiveInRange := by
  obtain ⟨⟨before, after, rest, c⟩, ha⟩ := hs.changes h.1 h.2
  exact ⟨c.consistent h.1 ha.lt, ha⟩

lemma run_consistent (hrun : Run WorkspaceOp.Step ws ops ws')
    (h : ws.Consistent ∧ ws.ActiveInRange) : ws'.Consistent ∧ ws'.ActiveInRange :=
  hrun.invariant (fun _ _ _ hm hs => hs.consistent hm) h

lemma run_keepsNumbers (hrun : Run WorkspaceOp.Step ws ops ws')
    (h : ws.Consistent ∧ ws.ActiveInRange) : KeepsNumbers ws ws' := by
  induction hrun with
  | nil ws => exact .refl ws
  | cons hs _ ih =>
    obtain ⟨⟨before, after, rest, c⟩, -⟩ := hs.changes h.1 h.2
    exact (c.keepsNumbers h.1).trans (ih (hs.consistent h))

/-- Tabs of equal number at two times of a run are one tab. -/
lemma run_livesOn (hrun : Run WorkspaceOp.Step ws ops ws')
    (h : ws.Consistent ∧ ws.ActiveInRange) {tab tab' : Tab} (ht : tab ∈ ws.tabs)
    (ht' : tab' ∈ ws'.tabs) (hnum : tab.number = tab'.number) : LivesOn ws tab ops ws' tab' := by
  induction hrun generalizing tab with
  | nil ws =>
    have he : tab = tab' := List.inj_on_of_nodup_map h.1.tab_numbers_nodup ht ht' hnum
    exact he ▸ .here ht
  | cons hs hrun ih =>
    obtain ⟨⟨before, after, rest, c⟩, -⟩ := hs.changes h.1 h.2
    have hlt := h.1.tab_number_lt tab ht
    -- the middle state still has the number, since only numbers from the counter on are new
    obtain ⟨next, hnext, hnum'⟩ := (run_keepsNumbers hrun (hs.consistent h)).tab tab' ht'
      (lt_of_lt_of_le (hnum ▸ hlt) c.next_tab_le)
    obtain ⟨old, hold, hnum'', hcont⟩ := c.continues h.1 hnext (by omega)
    have he : old = tab := List.inj_on_of_nodup_map h.1.tab_numbers_nodup hold ht (by omega)
    exact .step ht hs (he ▸ hcont) (ih (hs.consistent h) hnext ht' (hnum'.trans rfl))

/-- Every workspace reached from a new one satisfies the asserted conditions, and a public number
it shows belongs, at any later time, to the same pane or the same tab. -/
theorem workspace_reachable (h₀ : ws₀.Created) (hrun : Run WorkspaceOp.Step ws₀ ops ws) :
    ws.Consistent ∧ (ws.tabs ≠ [] → ws.AssertInvariants) ∧
    ∀ ops' ws', Run WorkspaceOp.Step ws ops' ws' →
      (∀ id id' n, ws.publicPaneNumbers.lookup id = some n →
        ws'.publicPaneNumbers.lookup id' = some n → id = id') ∧
      ∀ tab ∈ ws.tabs, ∀ tab' ∈ ws'.tabs, tab.number = tab'.number →
        LivesOn ws tab ops' ws' tab' := by
  have h := run_consistent hrun h₀.consistent
  refine ⟨h.1, fun hne => ⟨h.1, hne⟩, fun ops' ws' hrun' => ⟨fun id id' n hid hid' => ?_, ?_⟩⟩
  · have hkeep := (run_keepsNumbers hrun' h).pane id' n hid' (h.1.pane_number_lt id n hid)
    exact h.1.pane_number_inj id id' n hid hkeep
  · intro tab ht tab' ht' hnum
    exact run_livesOn hrun' h ht ht' hnum

theorem workspace_reachable_moved_out :
    ∃ ws, Run WorkspaceOp.Step (.fromExistingPane "w1" none none ⟨⟨1⟩, .new ⟨"t1"⟩⟩)
        [.createTab ⟨2⟩ (some ⟨"t2"⟩), .takePaneForMove ⟨1⟩] ws ∧
      ws.publicPaneNumbers.lookup ⟨2⟩ = some 2 ∧ ws.AssertInvariants := by
  have hrun : ∃ ws, Run WorkspaceOp.Step (.fromExistingPane "w1" none none ⟨⟨1⟩, .new ⟨"t1"⟩⟩)
      [.createTab ⟨2⟩ (some ⟨"t2"⟩), .takePaneForMove ⟨1⟩] ws ∧
      ws.publicPaneNumbers.lookup ⟨2⟩ = some 2 ∧ ws.tabs ≠ [] := by
    refine ⟨_, .cons ⟨?_, rfl⟩ (.cons ⟨?_, rfl⟩ (.nil _)), rfl, List.cons_ne_nil _ _⟩
    · intro paneId spawned he
      cases he
      exact ⟨by decide, by decide⟩
    · intro paneId spawned he
      cases he
  obtain ⟨ws, hrun, hnum, hne⟩ := hrun
  exact ⟨ws, hrun, hnum, (workspace_reachable (.fromExistingPane _ _ _ _) hrun).2.1 hne⟩

end Reachable

end Ork3.Workspaces
