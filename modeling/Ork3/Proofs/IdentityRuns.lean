import Ork3.Library.Run
import Ork3.Proofs.Identity

/-!
# Public ids over the runs of the application

What creating, closing and moving keep: public ids resolve to what they were made for.
-/

namespace Ork3.App

open Ork3.Library Ork3.Layout Ork3.Workspaces

namespace AppState

/-! ### The directory -/

/-- The part of the state that ids are resolved in. -/
def directory (st : AppState) : List Workspace × Table String PaneId × Nat :=
  (st.workspaces, st.publicPaneIdAliases, st.nextWorkspaceId)

def Identified (st : AppState) : Prop :=
  App.Identified st.workspaces st.publicPaneIdAliases st.nextWorkspaceId

section
variable {st st' : AppState} {workspaces : List Workspace} {aliases : Table String PaneId}
  {nextId : Nat}

lemma Identified.of_eq (h : App.Identified workspaces aliases nextId)
    (heq : st'.directory = (workspaces, aliases, nextId)) : st'.Identified := by
  unfold directory at heq
  rw [Prod.mk.injEq, Prod.mk.injEq] at heq
  obtain ⟨rfl, rfl, rfl⟩ := heq
  exact h

lemma Identified.of_directory (h : st.Identified) (heq : st'.directory = st.directory) :
    st'.Identified :=
  Identified.of_eq h heq

end

section
variable (st : AppState)

@[simp] lemma directory_clearSelection : st.clearSelection.directory = st.directory := rfl

@[simp] lemma directory_clearCopyModeSelection :
    st.clearCopyModeSelection.directory = st.directory := rfl

@[simp] lemma directory_syncCopyModeWithFocus :
    st.syncCopyModeWithFocus.directory = st.directory := by
  unfold syncCopyModeWithFocus
  split_ifs <;> rfl

@[simp] lemma directory_settleTerminalModeAfterFocus :
    st.settleTerminalModeAfterFocus.directory = st.directory :=
  directory_syncCopyModeWithFocus _

@[simp] lemma directory_recordPaneFocusChange (previous : Option PaneFocusTarget) (wsIdx : Nat)
    (paneId : PaneId) :
    (st.recordPaneFocusChange previous wsIdx paneId).directory = st.directory := by
  unfold recordPaneFocusChange
  split
  · rfl
  · split_ifs <;> rfl

@[simp] lemma directory_recordPaneFocusAfterNavigation (previous : Option PaneFocusTarget) :
    (st.recordPaneFocusAfterNavigation previous).directory = st.directory := by
  unfold recordPaneFocusAfterNavigation
  split_ifs <;> rfl

@[simp] lemma directory_syncSelectionAfterFocusNavigation :
    st.syncSelectionAfterFocusNavigation.directory = st.directory := by
  unfold syncSelectionAfterFocusNavigation
  split_ifs
  · exact directory_syncCopyModeWithFocus st
  · rfl

@[simp] lemma directory_removeAliasShadowedByNewPane (paneId : PaneId) :
    (st.removeAliasShadowedByNewPane paneId).directory = st.directory := rfl

@[simp] lemma directory_removeUnattachedTerminalId (terminalId : TerminalId) :
    (st.removeUnattachedTerminalId terminalId).directory = st.directory := by
  unfold removeUnattachedTerminalId
  split_ifs <;> rfl

@[simp] lemma directory_removeUnattachedTerminalIds (terminalIds : List TerminalId) :
    (st.removeUnattachedTerminalIds terminalIds).directory = st.directory := by
  induction terminalIds generalizing st with
  | nil => rfl
  | cons terminalId terminalIds ih =>
    exact (ih (st.removeUnattachedTerminalId terminalId)).trans
      (directory_removeUnattachedTerminalId st terminalId)

@[simp] lemma directory_clearCopyModeForRemovedPanes (paneIds : List PaneId) :
    (st.clearCopyModeForRemovedPanes paneIds).directory = st.directory := by
  unfold clearCopyModeForRemovedPanes
  split
  · rfl
  · split_ifs <;> rfl

@[simp] lemma directory_removePluginPaneRecords (paneIds : List PaneId) :
    (st.removePluginPaneRecords paneIds).directory = st.directory :=
  directory_clearCopyModeForRemovedPanes st paneIds

@[simp] lemma directory_shutdownDetachedTerminalRuntimes :
    st.shutdownDetachedTerminalRuntimes.directory = st.directory := rfl

end

/-! ### Changes of one workspace -/

section
variable {st : AppState} {i : Nat} {ws ws' : Workspace}

/-- An operation on a workspace that brings in at most what is new to the application. -/
lemma Identified.set_of_changes (h : st.Identified) (hws : st.workspaces[i]? = some ws)
    (hchanges : Changes ws ws') {brought : List (PaneId × TerminalId)}
    (hbrings : Brings ws ws' brought) (hfresh : FreshIn st.workspaces brought) :
    Identified { st with workspaces := st.workspaces.set i ws' } := by
  obtain ⟨hconsistent, hactive⟩ := h.valid ws (List.mem_of_getElem? hws)
  obtain ⟨⟨before, after, rest, c⟩, hactive'⟩ := hchanges
  exact h.set hws ⟨c.consistent hconsistent hactive'.lt, hactive'⟩ (c.keepsNumbers hconsistent)
    hbrings (hfresh.mono List.eraseIdx_subset)

lemma freshIn_nil (others : List Workspace) : FreshIn others [] := fun _ _ h => nomatch h

/-- Another operation on the workspace that was just changed. -/
lemma Identified.set_again {ws₁ ws₂ : Workspace}
    (h : Identified { st with workspaces := st.workspaces.set i ws₁ })
    (hws : st.workspaces[i]? = some ws)
    (hchanges : ws₁.Consistent → ws₁.ActiveInRange → Changes ws₁ ws₂) (hbrings : Brings ws₁ ws₂ []) :
    Identified { st with workspaces := st.workspaces.set i ws₂ } := by
  have hlt := (List.getElem?_eq_some_iff.mp hws).1
  have hws₁ : (st.workspaces.set i ws₁)[i]? = some ws₁ := List.getElem?_set_self hlt
  obtain ⟨hconsistent, hactive⟩ := h.valid ws₁ (List.mem_of_getElem? hws₁)
  have hset := h.set_of_changes hws₁ (hchanges hconsistent hactive) hbrings (freshIn_nil _)
  rwa [List.set_set] at hset

lemma shows_fromExistingPane {id : String} {label tabLabel : Option String} {moved : MovedPane}
    {paneId : PaneId} {terminalId : TerminalId}
    (h : Shows (Workspace.fromExistingPane id label tabLabel moved).tabs paneId terminalId) :
    (paneId, terminalId) = (moved.paneId, moved.paneState.attachedTerminalId) := by
  obtain ⟨tab, htab, state, hstate, rfl⟩ := h
  rw [List.mem_singleton.mp htab] at hstate
  have hpanes : (Tab.fromExistingPane 1 tabLabel moved).panes =
      AList.insert moved.paneId moved.paneState ∅ := (AList.insert_empty _ _).symm
  rw [hpanes] at hstate
  obtain hstate | ⟨rfl, rfl⟩ := lookup_insert_cases hstate
  · rw [AList.lookup_empty] at hstate
    cases hstate
  · rfl

lemma Identified.switch (h : st.Identified) (hws : st.workspaces[i]? = some ws) (tabIdx : Nat) :
    Identified { st with workspaces := st.workspaces.set i (ws.switchTab tabIdx) } := by
  obtain ⟨hconsistent, hactive⟩ := h.valid ws (List.mem_of_getElem? hws)
  exact h.set_of_changes hws (.switchTab hconsistent hactive tabIdx) (.switchTab tabIdx)
    (freshIn_nil _)

lemma Identified.switchWorkspaceTab (h : st.Identified) (wsIdx tabIdx : Nat) :
    (st.switchWorkspaceTab wsIdx tabIdx).Identified := by
  unfold AppState.switchWorkspaceTab
  cases hws : st.workspaces[wsIdx]? with
  | none => exact h
  | some ws =>
    dsimp only
    split_ifs
    · refine Identified.of_directory (h.switch hws tabIdx) ?_
      rw [directory_syncSelectionAfterFocusNavigation, directory_recordPaneFocusAfterNavigation]
      rfl
    · exact h

lemma Identified.switchWorkspace (h : st.Identified) (idx : Nat) :
    (st.switchWorkspace idx).Identified := by
  unfold AppState.switchWorkspace
  cases hws : st.workspaces[idx]? with
  | none => exact h
  | some ws =>
    refine Identified.of_directory (h.switch hws ws.activeTab) ?_
    rw [directory_syncSelectionAfterFocusNavigation, directory_recordPaneFocusAfterNavigation]
    rfl

end

/-! ### Creating -/

/-- The allocators return ids that no live pane has. -/
def FreshPane (st : AppState) (paneId : PaneId) (spawned : Option TerminalId) : Prop :=
  ∀ ws ∈ st.workspaces, paneId ∉ paneIds ws.tabs ∧
    ∀ terminalId ∈ spawned, terminalId ∉ terminalIds ws.tabs

instance (st : AppState) (paneId : PaneId) (spawned : Option TerminalId) :
    Decidable (st.FreshPane paneId spawned) :=
  inferInstanceAs (Decidable (∀ ws ∈ st.workspaces, paneId ∉ paneIds ws.tabs ∧
    ∀ terminalId ∈ spawned, terminalId ∉ terminalIds ws.tabs))

section
variable {st st' : AppState} {paneId : PaneId} {spawned : Option TerminalId}

lemma FreshPane.freshIn (h : st.FreshPane paneId spawned) :
    FreshIn st.workspaces (spawned.toList.map fun terminalId => (paneId, terminalId)) := by
  intro paneId' terminalId hbrought ws hws
  obtain ⟨terminalId', hmem, heq⟩ := List.mem_map.mp hbrought
  cases heq
  exact ⟨(h ws hws).1, (h ws hws).2 terminalId (Option.mem_toList.mp hmem)⟩

lemma Identified.createWorkspace (h : st.Identified) (hfresh : st.FreshPane paneId spawned)
    (focus : Bool) : (st.createWorkspace focus paneId spawned).Identified := by
  unfold AppState.createWorkspace
  cases spawned with
  | none =>
    change App.Identified st.workspaces st.publicPaneIdAliases (st.nextWorkspaceId + 1)
    exact App.Identified.next_mono h (Nat.le_succ _)
  | some terminalId =>
    generalize hcreated : Workspace.fromExistingPane (generateWorkspaceId st.nextWorkspaceId) none
      none ⟨paneId, .new terminalId⟩ = ws
    have hpush : App.Identified (st.workspaces ++ [ws]) st.publicPaneIdAliases
        (st.nextWorkspaceId + 1) := by
      subst hcreated
      refine App.Identified.push h (Workspace.Created.consistent (.fromExistingPane _ _ _ _)) rfl
        (fun other term hshows => ?_) hfresh.freshIn
      exact List.mem_singleton.mpr (shows_fromExistingPane hshows)
    have hnew : Workspace.new (generateWorkspaceId st.nextWorkspaceId) paneId (some terminalId) =
        some ws := congrArg some hcreated
    dsimp only
    rw [hnew]
    dsimp only
    generalize hst : removeAliasShadowedByNewPane
      { st with
        nextWorkspaceId := st.nextWorkspaceId + 1
        terminals := st.terminals ∪ (some terminalId).toFinset
        workspaces := st.workspaces ++ [ws] } paneId = created
    have hcreated : created.Identified := by
      rw [← hst]
      exact hpush
    split_ifs
    · exact (hcreated.switchWorkspace _).of_directory rfl
    · exact hcreated

lemma valid_setName {tab : Tab} (h : tab.Valid) (name : Option String) :
    Tab.Valid { tab with customName := name } where
  number_pos := h.number_pos
  root_mem := h.root_mem
  layout_nodup := h.layout_nodup
  focus_mem := h.focus_mem
  layout_panes := h.layout_panes

/-- The focus of a new tab, where it is asked for. -/
lemma Identified.of_focus_tab (h : st.Identified) {wsIdx tabIdx : Nat} {focus : Bool}
    (hfocus : (if focus = true then
      some { st.switchWorkspaceTab wsIdx tabIdx with mode := .terminal } else some st) =
      some st') : st'.Identified := by
  split_ifs at hfocus <;> cases hfocus
  · exact (h.switchWorkspaceTab wsIdx tabIdx).of_directory rfl
  · exact h

lemma Identified.createTab (h : st.Identified) (hfresh : st.FreshPane paneId spawned)
    {wsIdx : Nat} {focus : Bool} {label : Option String}
    (hcreate : st.createTab wsIdx focus label paneId spawned = some st') : st'.Identified := by
  unfold AppState.createTab at hcreate
  cases hws : st.workspaces[wsIdx]? with
  | none =>
    rw [hws] at hcreate
    cases hcreate
    exact h
  | some ws =>
    rw [hws] at hcreate
    dsimp only at hcreate
    have hmem := List.mem_of_getElem? hws
    obtain ⟨hconsistent, hactive⟩ := h.valid ws hmem
    obtain ⟨hpanic, -⟩ | ⟨created, result, hcreated, hchanges⟩ :=
      Changes.createTab hconsistent (hfresh ws hmem).1 (hfresh ws hmem).2
    · rw [hpanic] at hcreate
      cases hcreate
    have hbrings := Brings.createTab hcreated
    rw [hcreated] at hcreate
    simp only [Option.bind_eq_bind, Option.bind_some] at hcreate
    cases result with
    | none =>
      cases hcreate
      exact h.set_of_changes hws hchanges hbrings hfresh.freshIn
    | some tabIdx =>
      have hset := h.set_of_changes hws hchanges hbrings hfresh.freshIn
      cases label with
      | none =>
        refine Identified.of_focus_tab ?_ hcreate
        exact hset
      | some label =>
        have hlabelled := hset.set_again hws
          (fun hc ha => .modifyTab hc ha tabIdx (f := fun tab => { tab with customName := label })
            (fun tab htab => valid_setName htab label) (fun _ => rfl) fun _ => rfl)
          (.modifyTab tabIdx fun _ => rfl)
        refine Identified.of_focus_tab ?_ hcreate
        exact hlabelled

lemma Identified.handleTabCreate (h : st.Identified) (hfresh : st.FreshPane paneId spawned)
    {workspaceId : Option String} {focus : Bool} {label : Option String}
    (hcreate : st.handleTabCreate workspaceId focus label paneId spawned = some st') :
    st'.Identified := by
  unfold AppState.handleTabCreate at hcreate
  split at hcreate
  · split at hcreate
    · cases hcreate
      exact h
    · exact h.createTab hfresh hcreate
  · split at hcreate
    · cases hcreate
      exact h
    · exact h.createTab hfresh hcreate

lemma Identified.handlePaneSplit (h : st.Identified) (hfresh : st.FreshPane paneId spawned)
    {targetPaneId workspaceId : Option String} {direction : Direction} {ratio : Option F32}
    {focus : Bool}
    (hsplit : st.handlePaneSplit targetPaneId workspaceId direction ratio focus paneId spawned =
      some st') : st'.Identified := by
  unfold AppState.handlePaneSplit at hsplit
  cases htarget : st.splitTarget targetPaneId workspaceId with
  | none =>
    rw [htarget] at hsplit
    cases hsplit
    exact h
  | some found =>
    obtain ⟨wsIdx, target⟩ := found
    rw [htarget] at hsplit
    dsimp only at hsplit
    cases hws : st.workspaces[wsIdx]? with
    | none =>
      rw [hws] at hsplit
      cases hsplit
      exact h
    | some ws =>
      have hmem := List.mem_of_getElem? hws
      obtain ⟨hconsistent, hactive⟩ := h.valid ws hmem
      obtain ⟨ws', result, he, hchanges⟩ : ∃ ws' result,
          ws.splitPaneWithRuntime target paneId direction ratio focus spawned =
            some (ws', result) ∧ Changes ws ws' :=
        Changes.splitPaneWithRuntime hconsistent hactive direction ratio focus (hfresh ws hmem).1
          (hfresh ws hmem).2
      have hset := h.set_of_changes hws hchanges
        (.splitPaneWithRuntime hconsistent (hfresh ws hmem).1 he) hfresh.freshIn
      rw [hws] at hsplit
      simp only [he, Option.bind_eq_bind, Option.bind_some] at hsplit
      match result with
      | none =>
        cases hsplit
        exact hset
      | some (tabIdx, false) =>
        cases hsplit
        exact hset
      | some (tabIdx, true) =>
        cases hsplit
        cases focus with
        | false => exact hset
        | true =>
          refine (hset.switchWorkspaceTab wsIdx tabIdx).of_directory ?_
          exact (directory_settleTerminalModeAfterFocus _).trans
            (directory_recordPaneFocusChange _ _ wsIdx paneId)

end

/-! ### Reordering -/

section
variable {st st' : AppState}

lemma Identified.handleTabMove (h : st.Identified) (tabId : String) (insertIndex : Nat) :
    (st.handleTabMove tabId insertIndex).Identified := by
  unfold AppState.handleTabMove
  cases st.parseTabId tabId with
  | none => exact h
  | some found =>
    obtain ⟨wsIdx, tabIdx⟩ := found
    dsimp only
    cases hws : st.workspaces[wsIdx]? with
    | none => exact h
    | some ws =>
      obtain ⟨hconsistent, hactive⟩ := h.valid ws (List.mem_of_getElem? hws)
      dsimp only
      split_ifs
      · exact h
      · exact h.set_of_changes hws (.moveTab hconsistent hactive tabIdx insertIndex)
          (.moveTab tabIdx insertIndex) (freshIn_nil _)

lemma Identified.moveWorkspace (h : st.Identified) {sourceIdx insertIdx : Nat}
    (hmove : st.moveWorkspace sourceIdx insertIdx = some st') : st'.Identified := by
  unfold AppState.moveWorkspace at hmove
  cases hws : st.workspaces[sourceIdx]? with
  | none =>
    rw [hws] at hmove
    cases hmove
    exact h
  | some workspace =>
    rw [hws] at hmove
    dsimp only at hmove
    have hsource := (List.getElem?_eq_some_iff.mp hws).1
    generalize htarget : (if sourceIdx < insertIdx then insertIdx - 1 else insertIdx) = targetIdx
      at hmove
    split_ifs at hmove with hrange hsame
    · cases hmove
      exact h
    · cases hmove
      exact h
    · have hlen : targetIdx ≤ (st.workspaces.eraseIdx sourceIdx).length := by
        rw [List.length_eraseIdx_of_lt hsource]
        split_ifs at htarget <;> omega
      have hplaced := App.Identified.perm h
        ((List.perm_insertIdx workspace _ hlen).trans (getElem?_perm hws).symm)
      split at hmove
      · cases hmove
        exact hplaced
      · obtain ⟨activeId, -, hmove⟩ := Option.bind_eq_some_iff.mp hmove
        cases hmove
        exact hplaced

lemma Identified.handleWorkspaceMove (h : st.Identified) {workspaceId : String}
    {insertIndex : Nat} (hmove : st.handleWorkspaceMove workspaceId insertIndex = some st') :
    st'.Identified := by
  unfold AppState.handleWorkspaceMove at hmove
  split at hmove
  · cases hmove
    exact h
  · exact h.moveWorkspace hmove

end

/-! ### Closing -/

lemma removeWorkspaces_sublist {workspaces rest : List Workspace} {indices : List Nat}
    (h : removeWorkspaces workspaces indices = some rest) : rest.Sublist workspaces := by
  induction indices generalizing rest with
  | nil =>
    cases h
    exact List.Sublist.refl _
  | cons idx indices ih =>
    obtain ⟨mid, hmid, h⟩ := Option.bind_eq_some_iff.mp h
    split_ifs at h
    cases h
    exact (List.eraseIdx_sublist mid idx).trans (ih hmid)

section
variable {st st' : AppState}

lemma Identified.of_sublist (h : st.Identified) {workspaces : List Workspace}
    (hsub : workspaces.Sublist st.workspaces)
    (heq : st'.directory = (workspaces, st.publicPaneIdAliases, st.nextWorkspaceId)) :
    st'.Identified :=
  Identified.of_eq (App.Identified.sublist h hsub) heq

lemma Identified.closeSelectedWorkspace (h : st.Identified)
    (hclose : st.closeSelectedWorkspace = some st') : st'.Identified := by
  unfold AppState.closeSelectedWorkspace at hclose
  split at hclose
  · cases hclose
    exact h
  · obtain ⟨rest, hrest, hclose⟩ := Option.bind_eq_some_iff.mp hclose
    generalize hcloseIndices : st.clearSelection.closeIndices = indices at hrest hclose
    generalize hpaneIds : indices.flatMap st.clearSelection.paneIdsForWorkspace = paneIds
      at hrest hclose
    have hrecords := directory_removePluginPaneRecords st.clearSelection paneIds
    generalize st.clearSelection.removePluginPaneRecords paneIds = removed
      at hrest hclose hrecords
    have hremoved := h.of_directory hrecords
    have hunattached := directory_removeUnattachedTerminalIds { removed with workspaces := rest }
      (indices.flatMap st.clearSelection.terminalIdsForWorkspace)
    generalize removeUnattachedTerminalIds { removed with workspaces := rest }
      (indices.flatMap st.clearSelection.terminalIdsForWorkspace) = closed at hclose hunattached
    have hclosed := hremoved.of_sublist (removeWorkspaces_sublist hrest) hunattached
    dsimp only at hclose
    split_ifs at hclose <;> cases hclose <;> exact hclosed

lemma Identified.handleWorkspaceClose (h : st.Identified) {workspaceId : String}
    (hclose : st.handleWorkspaceClose workspaceId = some st') : st'.Identified := by
  unfold AppState.handleWorkspaceClose at hclose
  split at hclose
  · cases hclose
    exact h
  · split_ifs at hclose
    · cases hclose
      exact h
    · obtain ⟨closed, hclosed, hclose⟩ := Option.bind_eq_some_iff.mp hclose
      cases hclose
      refine Identified.of_directory (Identified.closeSelectedWorkspace ?_ hclosed)
        (directory_removePluginPaneRecords closed _)
      exact h

lemma Identified.handleTabClose (h : st.Identified) (tabId : String) :
    (st.handleTabClose tabId).Identified := by
  unfold AppState.handleTabClose
  cases st.parseTabId tabId with
  | none => exact h
  | some found =>
    obtain ⟨wsIdx, tabIdx⟩ := found
    dsimp only
    cases hws : st.workspaces[wsIdx]? with
    | none => exact h
    | some ws =>
      obtain ⟨hconsistent, hactive⟩ := h.valid ws (List.mem_of_getElem? hws)
      have hset := h.set_of_changes hws (.closeTab hconsistent hactive tabIdx) (.closeTab tabIdx)
        (freshIn_nil _)
      dsimp only
      cases ws.tabs[tabIdx]? with
      | none => exact h
      | some tab =>
        dsimp only
        generalize ws.closeTab tabIdx = result at hset ⊢
        obtain ⟨ws', closed⟩ := result
        dsimp only at hset ⊢
        split_ifs
        · exact h
        · exact hset
        · refine hset.of_directory ?_
          exact (directory_removeUnattachedTerminalIds _ _).trans
            (directory_removePluginPaneRecords _ _)

/-- A pane is detached from its workspace, which may be its last one. -/
lemma Identified.set_detached (h : st.Identified) {i : Nat} {ws ws' : Workspace} {closes : Bool}
    (hws : st.workspaces[i]? = some ws) {paneId : PaneId}
    (hdetach : ws.detachPaneWith Tab.detachPane paneId = some (ws', closes)) :
    Identified { st with workspaces := st.workspaces.set i ws' } := by
  obtain ⟨hconsistent, hactive⟩ := h.valid ws (List.mem_of_getElem? hws)
  obtain ⟨ws₁, closes₁, he, hchanges⟩ := Changes.detachPane hconsistent hactive paneId
  rw [hdetach] at he
  cases he
  exact h.set_of_changes hws hchanges (.detachPane hconsistent hdetach) (freshIn_nil _)

lemma Identified.closeResolvedPane (h : st.Identified) {wsIdx : Nat} {paneId : PaneId}
    (hclose : st.closeResolvedPane wsIdx paneId = some st') : st'.Identified := by
  unfold AppState.closeResolvedPane at hclose
  split_ifs at hclose
  · cases hclose
    exact h
  · cases hclose
    exact h
  · simp only [Option.bind_eq_bind, Option.bind_eq_some_iff] at hclose
    obtain ⟨ws, hws, ⟨ws', closes⟩, hdetach, hclose⟩ := hclose
    have hset := h.set_detached hws hdetach
    have hremoved := hset.of_directory (directory_removePluginPaneRecords _ [paneId])
    dsimp only at hclose
    generalize removePluginPaneRecords
      { st with workspaces := st.workspaces.set wsIdx ws' } [paneId] = removed at hclose hremoved
    split_ifs at hclose
    · obtain ⟨closed, hclosed, hclose⟩ := Option.bind_eq_some_iff.mp hclose
      cases hclose
      have hselected : Identified { removed with selected := wsIdx } := hremoved
      exact (hselected.closeSelectedWorkspace hclosed).of_directory rfl
    · cases hclose
      exact hremoved.of_directory (directory_removeUnattachedTerminalIds removed _)

lemma Identified.closePane (h : st.Identified) {paneId : String}
    (hclose : st.closePane paneId = some st') : st'.Identified := by
  unfold AppState.closePane at hclose
  split at hclose
  · cases hclose
    exact h
  · exact h.closeResolvedPane hclose

lemma lookup_of_retain {aliases : Table String PaneId} {keep : String → PaneId → Bool}
    {key : String} {paneId : PaneId} (h : (aliases.retain keep).lookup key = some paneId) :
    aliases.lookup key = some paneId := by
  rw [Table.lookup_retain] at h
  exact (Option.filter_eq_some_iff.mp h).1

lemma Identified.handlePaneDied (h : st.Identified) {paneId : PaneId}
    (hdied : st.handlePaneDied paneId = some st') : st'.Identified := by
  unfold AppState.handlePaneDied at hdied
  have hrecords := directory_removePluginPaneRecords
    { st with pendingAgentNotifications := st.pendingAgentNotifications.erase paneId } [paneId]
  dsimp only at hdied
  generalize removePluginPaneRecords
    { st with pendingAgentNotifications := st.pendingAgentNotifications.erase paneId } [paneId] =
    removed at hdied hrecords
  have hremoved : removed.Identified := h.of_directory hrecords
  split at hdied
  · cases hdied
    exact hremoved
  · next wsIdx hfind =>
    generalize hcleared : (if removed.selection.any fun s => s.paneId = paneId then
      removed.clearSelection else removed) = cleared at hdied
    have hcleared : cleared.Identified := by
      subst hcleared
      split_ifs
      · exact hremoved
      · exact hremoved
    simp only [Option.bind_eq_bind, Option.bind_eq_some_iff] at hdied
    obtain ⟨ws, hws, ⟨ws', closes⟩, hdetach, hdied⟩ := hdied
    have hset := hcleared.set_detached hws hdetach
    have haliases : App.Identified (cleared.workspaces.set wsIdx ws')
        (cleared.publicPaneIdAliases.retain fun _ pane => pane ≠ paneId) cleared.nextWorkspaceId :=
      App.Identified.aliases_mono hset fun key pane hkey => lookup_of_retain hkey
    dsimp only at hdied
    split at hdied
    · have hclosed := App.Identified.sublist haliases (List.eraseIdx_sublist _ wsIdx)
      have hunattached := directory_removeUnattachedTerminalIds
        { cleared with
          paneIdAliases := cleared.paneIdAliases.retain fun _ pane => pane ≠ paneId
          publicPaneIdAliases := cleared.publicPaneIdAliases.retain fun _ pane => pane ≠ paneId
          workspaces := (cleared.workspaces.set wsIdx ws').eraseIdx wsIdx }
        (cleared.terminalIdsForWorkspace wsIdx)
      generalize removeUnattachedTerminalIds _ _ = closed at hdied hunattached
      have hclosed := Identified.of_eq hclosed hunattached
      split_ifs at hdied <;> cases hdied <;> exact hclosed
    · cases hdied
      exact Identified.of_eq haliases (directory_removeUnattachedTerminalIds _ _)

end

/-! ### Moving -/

/-- The counters are `usize`. -/
def FitsUsize (st : AppState) : Prop :=
  ∀ ws ∈ st.workspaces, ws.nextPublicTabNumber ≤ usizeBound ∧ ws.nextPublicPaneNumber ≤ usizeBound

instance (st : AppState) : Decidable st.FitsUsize :=
  inferInstanceAs (Decidable (∀ ws ∈ st.workspaces,
    ws.nextPublicTabNumber ≤ usizeBound ∧ ws.nextPublicPaneNumber ≤ usizeBound))

/-- The destination is there. -/
def Reaches (workspaces : List Workspace) : ResolvedPaneMoveDestination → Prop
  | .existingTab tabId targetPaneId _ _ _ => ∃ ws ∈ workspaces, ∃ tab ∈ ws.tabs,
    tabId = publicTabIdForNumber ws.id tab.number ∧ targetPaneId ∈ tab.panes ∧
      tab.number < usizeBound
  | .newTab workspaceId _ => ∃ ws ∈ workspaces, workspaceId = ws.id
  | .newWorkspace _ _ => True

section
variable {st st' : AppState}

lemma Identified.idsGenerated (h : st.Identified) : st.IdsGenerated :=
  ⟨List.pairwise_map.mpr (h.apart.imp fun hapart => hapart.ids), h.generated⟩

lemma Identified.set_focus {i : Nat} {ws ws' : Workspace}
    (h : Identified { st with workspaces := st.workspaces.set i ws' })
    (hws : st.workspaces[i]? = some ws) (focus : Bool) (j : Nat) (previous : PaneId) :
    Identified { st with
      workspaces := st.workspaces.set i (if focus = true then ws' else
        { ws' with
          tabs := ws'.tabs.modify j fun tab =>
            { tab with layout := tab.layout.focusPane previous } }) } := by
  cases focus with
  | true => exact h
  | false =>
    refine h.set_again hws (fun hc ha => ?_) (.modifyTab j fun _ => rfl)
    exact .modifyTab hc ha j (fun _ htab => htab.focusPane previous) (fun _ => rfl) fun _ => rfl

lemma Identified.placeMovedPane (h : st.Identified) {context : PaneMoveRecoveryContext}
    {moved : MovedPane} {focus : Bool} {resolved : ResolvedPaneMoveDestination}
    {placed : Option (Nat × Nat)}
    (hfresh : FreshIn st.workspaces [(moved.paneId, moved.paneState.attachedTerminalId)])
    (hreaches : Reaches st.workspaces resolved)
    (hplace : st.placeMovedPane context moved focus resolved = some (st', placed)) :
    st'.Identified := by
  have hids := h.idsGenerated
  have hmoved : ∀ ws ∈ st.workspaces, moved.paneId ∉ paneIds ws.tabs ∧
      moved.paneState.attachedTerminalId ∉ terminalIds ws.tabs := fun ws hws =>
    hfresh _ _ List.mem_cons_self ws hws
  cases resolved with
  | existingTab tabId target split ratio cross =>
    obtain ⟨ws, hmem, tab, htab, rfl, htarget, hbound⟩ := hreaches
    obtain ⟨i, hws⟩ := List.mem_iff_getElem?.mp hmem
    obtain ⟨j, ht⟩ := List.mem_iff_getElem?.mp htab
    obtain ⟨hconsistent, hactive⟩ := h.valid ws hmem
    have hv := hconsistent.tabs_valid tab htab
    have hparse := parseTabId_publicTabId hids hws hconsistent.tab_numbers_nodup ht hv.number_pos
      hbound
    have hpane : moved.paneId ∉ tab.panes := fun hin =>
      (hmoved ws hmem).1 (mem_paneIds.mpr ⟨tab, htab, hin⟩)
    obtain ⟨hpanes, hinsert⟩ := insertMovedPaneIntoTab_eq moved ht hv hpane htarget split ratio
    have hchanges := Changes.insertMovedPaneIntoTab hconsistent hactive (hmoved ws hmem).1
      (hmoved ws hmem).2 j target split ratio
    have hbrings : Brings ws (ws.insertMovedPaneIntoTab j target moved split ratio).1
        [(moved.paneId, moved.paneState.attachedTerminalId)] := by
      rw [hinsert]
      refine Brings.of_insert ?_ (tab.insertExistingPane target moved split ratio).1 moved.paneId
        moved.paneState ht ?_ hpanes
      · dsimp only
        split <;> rfl
      · dsimp only
        split <;> rfl
    have hset := h.set_of_changes hws hchanges hbrings hfresh
    obtain ⟨ws', he⟩ : ∃ ws', ws.insertMovedPaneIntoTab j target moved split ratio =
      (ws', some moved.paneId) := ⟨_, hinsert⟩
    rw [he] at hset
    simp only [AppState.placeMovedPane, hparse, hws, ht, he, Option.bind_eq_bind,
      Option.bind_some] at hplace
    cases hplace
    exact hset.set_focus hws focus j tab.layout.focus
  | newTab workspaceId label =>
    obtain ⟨ws, hmem, rfl⟩ := hreaches
    obtain ⟨i, hws⟩ := List.mem_iff_getElem?.mp hmem
    obtain ⟨hconsistent, hactive⟩ := h.valid ws hmem
    have hparse := parseWorkspaceId_id hids.1 hws
    simp only [AppState.placeMovedPane, hparse, hws, Option.bind_eq_bind, Option.bind_some]
      at hplace
    cases hplace
    exact h.set_of_changes hws (.createTabFromExistingPane hconsistent hactive (hmoved ws hmem).1
      (hmoved ws hmem).2 label) (.createTabFromExistingPane moved label) hfresh
  | newWorkspace label tabLabel =>
    cases hplace
    refine App.Identified.push h (Workspace.Created.consistent (.fromExistingPane _ _ _ _)) rfl
      (fun other term hshows => ?_) hfresh
    exact List.mem_singleton.mpr (shows_fromExistingPane hshows)

lemma directory_removeEmptiedWorkspace (st : AppState) (sourceWsIdx : Nat) :
    (st.removeEmptiedWorkspace sourceWsIdx).directory =
      (st.workspaces.eraseIdx sourceWsIdx, st.publicPaneIdAliases, st.nextWorkspaceId) := by
  unfold AppState.removeEmptiedWorkspace
  dsimp only
  split_ifs <;> rfl

lemma workspaces_removeEmptiedWorkspace (st : AppState) (sourceWsIdx : Nat) :
    (st.removeEmptiedWorkspace sourceWsIdx).workspaces = st.workspaces.eraseIdx sourceWsIdx :=
  congrArg Prod.fst (directory_removeEmptiedWorkspace st sourceWsIdx)

lemma Identified.removeEmptiedWorkspace (h : st.Identified) (sourceWsIdx : Nat) :
    (st.removeEmptiedWorkspace sourceWsIdx).Identified :=
  h.of_sublist (List.eraseIdx_sublist _ _) (directory_removeEmptiedWorkspace st sourceWsIdx)

/-- The public id a pane had in the workspace it leaves. -/
lemma retired_of_leaves {workspaces : List Workspace} {nextId i : Nat} {ws ws₁ : Workspace}
    {aliases : Table String PaneId} (h : App.Identified workspaces aliases nextId)
    (hws : workspaces[i]? = some ws) {paneId : PaneId} {number : Nat}
    (hnumber : ws.publicPaneNumbers.lookup paneId = some number)
    (hnumbers : ws₁.publicPaneNumbers = ws.publicPaneNumbers.erase paneId)
    (hnext : ws₁.nextPublicPaneNumber = ws.nextPublicPaneNumber) :
    Retired (workspaces.set i ws₁) nextId (publicPaneIdForNumber ws.id number) := by
  have hmem := List.mem_of_getElem? hws
  obtain ⟨n, hn, hlt, hid⟩ := h.generated ws hmem
  have hc := (h.valid ws hmem).1
  refine ⟨n, number, hn, hlt, hc.pane_number_pos paneId number hnumber, by rw [hid], ?_⟩
  intro other hother hotherId
  obtain rfl | hother := List.mem_cons.mp ((set_perm hws ws₁).mem_iff.mp hother)
  · rw [hnumbers, hnext]
    refine ⟨hc.pane_number_lt paneId number hnumber, fun other hlookup => ?_⟩
    by_cases he : other = paneId
    · rw [he, AList.lookup_erase] at hlookup
      cases hlookup
    · rw [AList.lookup_erase_ne he] at hlookup
      exact he (hc.pane_number_inj other paneId number hlookup hnumber)
  · have hapart := ((getElem?_perm hws).pairwise_iff fun hapart => Apart.symm hapart).mp h.apart
    exact absurd (hid.trans hotherId.symm) ((List.pairwise_cons.mp hapart).1 other hother).ids

/-- After the placement the focus follows and a raw alias goes. -/
lemma Identified.of_placed (h : st.Identified) {focus : Bool} {previous : Option PaneFocusTarget}
    {wsIdx tabIdx : Nat} {paneId : PaneId} :
    (removeAliasShadowedByNewPane
      (if (focus || st.active.isNone) = true then
        ((st.switchWorkspaceTab wsIdx tabIdx).recordPaneFocusChange previous wsIdx
          paneId).settleTerminalModeAfterFocus
      else st) paneId).Identified := by
  split_ifs
  · refine (h.switchWorkspaceTab wsIdx tabIdx).of_directory ?_
    exact (directory_settleTerminalModeAfterFocus _).trans
      (directory_recordPaneFocusChange _ previous wsIdx paneId)
  · exact h

/-- The state between taking the pane and placing it. -/
def withPaneTaken (st : AppState) (sourceWsIdx : Nat) (source : Workspace) (taken : TakenPane)
    (sourcePaneId : PaneId) (previousPaneId : String) (crossWorkspace : Bool) : AppState :=
  let source := if crossWorkspace then source.unregisterMovedPane sourcePaneId else source
  let st := { st with
    workspaces := st.workspaces.set sourceWsIdx source
    publicPaneIdAliases :=
      if crossWorkspace then st.publicPaneIdAliases.insert previousPaneId sourcePaneId
      else st.publicPaneIdAliases }
  if taken.workspaceEmpty && crossWorkspace then st.removeEmptiedWorkspace sourceWsIdx else st

variable {sourceWsIdx : Nat} {source source₁ : Workspace} {sourcePaneId : PaneId}
  {taken : TakenPane} {previousPaneId : String} {context : PaneMoveRecoveryContext} {focus : Bool}
  {resolved : ResolvedPaneMoveDestination}

/-- A move is a taking and a placing. -/
lemma Identified.of_movePaneTo (hws : st.workspaces[sourceWsIdx]? = some source)
    (t : Takes source sourcePaneId source₁ taken)
    (hmove : st.movePaneTo sourceWsIdx sourcePaneId previousPaneId context focus resolved =
      some st')
    (hplaced : ∀ st₃ placed, (st.withPaneTaken sourceWsIdx source₁ taken sourcePaneId
      previousPaneId (moveCrossesWorkspace context.previousWorkspaceId resolved)).placeMovedPane
        context taken.moved focus resolved = some (st₃, placed) → st₃.Identified) :
    st'.Identified := by
  unfold AppState.movePaneTo at hmove
  rw [hws] at hmove
  simp only [t.taken_eq, Option.bind_eq_bind, Option.bind_some] at hmove
  obtain ⟨⟨st₃, placed⟩, hplace, hmove⟩ := Option.bind_eq_some_iff.mp hmove
  have h₃ := hplaced st₃ placed hplace
  match placed with
  | none =>
    cases hmove
    exact h₃
  | some (wsIdx, tabIdx) =>
    cases hmove
    exact h₃.of_placed

/-- The pane leaves its workspace. -/
lemma Identified.withPaneTaken_cross (h : st.Identified)
    (hws : st.workspaces[sourceWsIdx]? = some source)
    (t : Takes source sourcePaneId source₁ taken) {number : Nat}
    (hnumber : source.publicPaneNumbers.lookup sourcePaneId = some number) :
    let st₂ := st.withPaneTaken sourceWsIdx source₁ taken sourcePaneId
      (publicPaneIdForNumber source.id number) true
    st₂.Identified ∧
      FreshIn st₂.workspaces [(sourcePaneId, taken.moved.paneState.attachedTerminalId)] ∧
      ∀ ws ∈ st.workspaces, ws.id ≠ source.id → ws ∈ st₂.workspaces := by
  have hmem := List.mem_of_getElem? hws
  obtain ⟨hconsistent, hactive⟩ := h.valid source hmem
  obtain ⟨hchanges, hpane, hterm⟩ := t.unregistered hconsistent hactive
  have hset := h.set_of_changes hws hchanges ⟨t.brings.id, t.brings.shows⟩ (freshIn_nil _)
  have hretired : Retired
      (st.workspaces.set sourceWsIdx (source₁.unregisterMovedPane sourcePaneId))
      st.nextWorkspaceId (publicPaneIdForNumber source.id number) :=
    retired_of_leaves h hws hnumber (congrArg (AList.erase sourcePaneId) t.numbers) t.next_pane
  have hset := App.Identified.insert_alias hset hretired sourcePaneId
  have hapart := ((getElem?_perm hws).pairwise_iff fun hapart => Apart.symm hapart).mp h.apart
  have hfresh : FreshIn (st.workspaces.set sourceWsIdx (source₁.unregisterMovedPane sourcePaneId))
      [(sourcePaneId, taken.moved.paneState.attachedTerminalId)] := by
    intro paneId terminalId hbrought other hother
    cases List.mem_singleton.mp hbrought
    obtain rfl | hother := List.mem_cons.mp ((set_perm hws _).mem_iff.mp hother)
    · exact ⟨hpane, hterm⟩
    · have hother := (List.pairwise_cons.mp hapart).1 other hother
      exact ⟨hother.panes sourcePaneId (mem_paneIds_iff_shows.mpr ⟨_, t.shown⟩),
        hother.terminals _ (mem_terminalIds_iff_shows.mpr ⟨_, t.shown⟩)⟩
  have herase : (st.workspaces.set sourceWsIdx (source₁.unregisterMovedPane sourcePaneId)).eraseIdx
      sourceWsIdx = st.workspaces.eraseIdx sourceWsIdx := List.eraseIdx_set_eq
  have hothers : ∀ ws ∈ st.workspaces, ws.id ≠ source.id →
      ws ∈ st.workspaces.eraseIdx sourceWsIdx := fun ws hother hid =>
    mem_eraseIdx_of_ne hws hother fun he => hid (congrArg Workspace.id he)
  dsimp only
  unfold withPaneTaken
  cases taken.workspaceEmpty with
  | true =>
    refine ⟨Identified.removeEmptiedWorkspace ?_ sourceWsIdx, ?_, fun ws hother hid => ?_⟩
    · exact hset
    · change FreshIn (AppState.removeEmptiedWorkspace _ _).workspaces _
      rw [workspaces_removeEmptiedWorkspace]
      exact hfresh.mono List.eraseIdx_subset
    · change ws ∈ (AppState.removeEmptiedWorkspace _ _).workspaces
      rw [workspaces_removeEmptiedWorkspace]
      exact herase.symm ▸ hothers ws hother hid
  | false =>
    refine ⟨hset, hfresh, fun ws hother hid => ?_⟩
    exact mem_set_of_ne _ hws hother fun he => hid (congrArg Workspace.id he)

/-- The destination is the workspace that the pane is in, and in it not its own tab. -/
def Stays (source : Workspace) (sourcePaneId : PaneId) : ResolvedPaneMoveDestination → Prop
  | .existingTab tabId targetPaneId _ _ _ => ∃ tab ∈ source.tabs, sourcePaneId ∉ tab.panes ∧
    tabId = publicTabIdForNumber source.id tab.number ∧ targetPaneId ∈ tab.panes ∧
      tab.number < usizeBound
  | .newTab workspaceId _ => workspaceId = source.id
  | .newWorkspace _ _ => False

lemma Identified.set_put_back (h : st.Identified)
    (hws : st.workspaces[sourceWsIdx]? = some source)
    (t : Takes source sourcePaneId source₁ taken) {put source₂ : Workspace}
    (hput : Changes (source₁.unregisterMovedPane sourcePaneId) put)
    (hkeys : ∀ other, other ∈ put.publicPaneNumbers ↔
      other = sourcePaneId ∨ other ∈ (source₁.unregisterMovedPane sourcePaneId).publicPaneNumbers)
    (htabs : source₂.tabs = put.tabs) (hactive : source₂.activeTab = put.activeTab)
    (hnext : source₂.nextPublicTabNumber = put.nextPublicTabNumber)
    (hnumbers : source₂.publicPaneNumbers = source₁.publicPaneNumbers)
    (hpane : source₂.nextPublicPaneNumber = source₁.nextPublicPaneNumber)
    (hbrings : Brings source₁ source₂
      [(sourcePaneId, taken.moved.paneState.attachedTerminalId)]) :
    Identified { st with workspaces := st.workspaces.set sourceWsIdx source₂ } := by
  obtain ⟨hconsistent, hvalid⟩ := h.valid source (List.mem_of_getElem? hws)
  obtain ⟨hvalid, hkeeps⟩ := t.put_back hconsistent hvalid hput hkeys htabs hactive hnext hnumbers
    hpane
  have habsorbed : Brings source source₂ [] := by
    refine (t.brings.trans hbrings).absorb fun paneId terminalId hbrought => ?_
    cases List.mem_singleton.mp hbrought
    exact t.shown
  exact App.Identified.set h hws hvalid hkeeps habsorbed (freshIn_nil _)

lemma withPaneTaken_false (st : AppState) (sourceWsIdx : Nat) (source₁ : Workspace)
    (taken : TakenPane) (sourcePaneId : PaneId) (previousPaneId : String) :
    st.withPaneTaken sourceWsIdx source₁ taken sourcePaneId previousPaneId false =
      { st with workspaces := st.workspaces.set sourceWsIdx source₁ } := by
  unfold withPaneTaken
  rw [Bool.and_false]
  rfl

lemma IdsGenerated.set (h : st.IdsGenerated) (hws : st.workspaces[sourceWsIdx]? = some source)
    (hid : source₁.id = source.id) :
    IdsGenerated { st with workspaces := st.workspaces.set sourceWsIdx source₁ } := by
  have hmap : (st.workspaces.set sourceWsIdx source₁).map (·.id) = st.workspaces.map (·.id) := by
    obtain ⟨hlt, rfl⟩ := List.getElem?_eq_some_iff.mp hws
    rw [List.map_set, hid, ← List.map_set, List.set_getElem_self]
  refine ⟨?_, fun ws hmem => ?_⟩
  · change ((st.workspaces.set sourceWsIdx source₁).map (·.id)).Nodup
    rw [hmap]
    exact h.1
  · obtain hmem | rfl := List.mem_or_eq_of_mem_set hmem
    · exact h.2 ws hmem
    · rw [hid]
      exact h.2 source (List.mem_of_getElem? hws)

lemma Identified.placeMovedPane_within (h : st.Identified)
    (hws : st.workspaces[sourceWsIdx]? = some source)
    (t : Takes source sourcePaneId source₁ taken) (hstays : Stays source sourcePaneId resolved)
    {placed : Option (Nat × Nat)}
    (hplace : (st.withPaneTaken sourceWsIdx source₁ taken sourcePaneId previousPaneId
      false).placeMovedPane context taken.moved focus resolved = some (st', placed)) :
    st'.Identified := by
  have hmem := List.mem_of_getElem? hws
  obtain ⟨hconsistent, hactive⟩ := h.valid source hmem
  obtain ⟨hchanges, hpane, hterm⟩ := t.unregistered hconsistent hactive
  obtain ⟨⟨before, after, rest, c⟩, hactive₁⟩ := id hchanges
  have hconsistent₁ := c.consistent hconsistent hactive₁.lt
  have hids := h.idsGenerated.set hws t.brings.id
  have hlt := (List.getElem?_eq_some_iff.mp hws).1
  have hws₁ : (st.workspaces.set sourceWsIdx source₁)[sourceWsIdx]? = some source₁ :=
    List.getElem?_set_self hlt
  have hkept : taken.moved.paneId ∈ source₁.publicPaneNumbers := by
    rw [t.moved, t.numbers, hconsistent.public_iff]
    exact mem_paneIds_iff_shows.mpr ⟨_, t.shown⟩
  rw [← t.moved] at hpane
  have hgone : taken.moved.paneId ∉
      (source₁.unregisterMovedPane sourcePaneId).publicPaneNumbers := by
    rw [hconsistent₁.public_iff]
    exact hpane
  rw [withPaneTaken_false] at hplace
  cases resolved with
  | existingTab tabId target split ratio cross =>
    obtain ⟨tab, htab, hnot, rfl, htarget, hbound⟩ := hstays
    have htab₁ := t.others tab htab hnot
    obtain ⟨j, ht⟩ := List.mem_iff_getElem?.mp htab₁
    have hv := hconsistent.tabs_valid tab htab
    have hparse := parseTabId_publicTabId hids hws₁ hconsistent₁.tab_numbers_nodup ht hv.number_pos
      hbound
    rw [t.brings.id] at hparse
    rw [← t.moved] at hnot
    obtain ⟨hpanes, hinsert⟩ := insertMovedPaneIntoTab_eq taken.moved ht hv hnot htarget split ratio
    have ht' : (source₁.unregisterMovedPane sourcePaneId).tabs[j]? = some tab := ht
    obtain ⟨-, hput⟩ := insertMovedPaneIntoTab_eq taken.moved ht' hv hnot htarget split ratio
    rw [if_neg (not_not.mpr hkept)] at hinsert
    rw [if_pos hgone] at hput
    have hputChanges := Changes.insertMovedPaneIntoTab hconsistent₁ hactive₁ hpane hterm j target
      split ratio
    rw [hput] at hputChanges
    have hset := @Identified.set_put_back _ _ _ _ _ _ h hws t _ { source₁ with
      tabs := source₁.tabs.set j (tab.insertExistingPane target taken.moved split ratio).1 }
      hputChanges (fun other => by
        change other ∈ AList.insert _ _ _ ↔ _
        rw [AList.mem_insert, t.moved])
      rfl rfl rfl rfl rfl (by
        rw [← t.moved]
        refine Brings.of_insert ?_ (tab.insertExistingPane target taken.moved split ratio).1 _ _ ht
          ?_ hpanes
        · rfl
        · rfl)
    simp only [AppState.placeMovedPane, hparse, hws₁, ht, hinsert, Option.bind_eq_bind,
      Option.bind_some] at hplace
    cases hplace
    rw [List.set_set]
    exact hset.set_focus hws focus j tab.layout.focus
  | newTab workspaceId label =>
    obtain rfl := hstays
    have hparse := parseWorkspaceId_id hids.1 hws₁
    rw [t.brings.id] at hparse
    have hputChanges := Changes.createTabFromExistingPane hconsistent₁ hactive₁ hpane hterm label
    have hcreated : Brings source₁ _ _ := .createTabFromExistingPane taken.moved label
    unfold Workspace.createTabFromExistingPane at hputChanges hcreated
    simp only [if_pos hgone] at hputChanges
    simp only [if_neg (not_not.mpr hkept)] at hcreated
    rw [t.moved] at hcreated
    have hset := @Identified.set_put_back _ _ _ _ _ _ h hws t _ { source₁ with
      nextPublicTabNumber := source₁.nextPublicTabNumber + 1
      tabs := source₁.tabs ++ [.fromExistingPane source₁.nextPublicTabNumber label taken.moved] }
      hputChanges (fun other => by
        change other ∈ AList.insert _ _ _ ↔ _
        rw [AList.mem_insert, t.moved])
      rfl rfl rfl rfl rfl hcreated
    simp only [AppState.placeMovedPane, hparse, hws₁, Workspace.createTabFromExistingPane,
      if_neg (not_not.mpr hkept), Option.bind_eq_bind, Option.bind_some] at hplace
    cases hplace
    rw [List.set_set]
    exact hset
  | newWorkspace label tabLabel => exact hstays.elim

lemma Reaches.mono {workspaces workspaces' : List Workspace} (h : Reaches workspaces resolved)
    (hsub : ∀ ws ∈ workspaces, ws ∈ workspaces') : Reaches workspaces' resolved := by
  cases resolved with
  | existingTab tabId target split ratio cross =>
    obtain ⟨ws, hws, h⟩ := h
    exact ⟨ws, hsub ws hws, h⟩
  | newTab workspaceId label =>
    obtain ⟨ws, hws, h⟩ := h
    exact ⟨ws, hsub ws hws, h⟩
  | newWorkspace label tabLabel => exact trivial

lemma eq_of_mem_panes {ws : Workspace} (hnodup : (paneIds ws.tabs).Nodup) {i j : Nat}
    {tab tab' : Tab} (ht : ws.tabs[i]? = some tab) (ht' : ws.tabs[j]? = some tab') {paneId : PaneId}
    (hin : paneId ∈ tab.panes) (hin' : paneId ∈ tab'.panes) : i = j := by
  by_contra hne
  have hperm : ws.tabs.Perm (tab :: ws.tabs.eraseIdx i) := getElem?_perm ht
  have hmem : tab' ∈ ws.tabs.eraseIdx i :=
    List.mem_eraseIdx_iff_getElem?.mpr ⟨j, fun he => hne he.symm, ht'⟩
  have hpanes : (paneIds (tab :: ws.tabs.eraseIdx i)).Nodup :=
    ((hperm.flatMap_right _).nodup_iff).mp hnodup
  have hdisjoint := (List.nodup_append.mp hpanes).2.2
  exact hdisjoint paneId (AList.mem_keys.mp hin) paneId
    (mem_paneIds.mpr ⟨tab', hmem, hin'⟩) rfl

lemma resolvePaneMoveDestination_spec (h : st.Identified) (hfits : st.FitsUsize)
    (hws : st.workspaces[sourceWsIdx]? = some source) {sourceTabIdx : Nat}
    (hfind : source.findTabIndexForPane sourcePaneId = some sourceTabIdx)
    {destination : PaneMoveDestination}
    (hresolve : st.resolvePaneMoveDestination sourceWsIdx sourceTabIdx source.id destination =
      some (some resolved)) :
    moveCrossesWorkspace source.id resolved = true ∧
        Reaches (st.workspaces.filter fun ws => ws.id ≠ source.id) resolved ∨
      moveCrossesWorkspace source.id resolved = false ∧ Stays source sourcePaneId resolved := by
  cases destination with
  | tab tabId targetPaneId split ratio =>
    unfold AppState.resolvePaneMoveDestination at hresolve
    dsimp only at hresolve
    cases hparse : st.parseTabId tabId with
    | none =>
      rw [hparse] at hresolve
      cases hresolve
    | some found =>
      obtain ⟨targetWsIdx, targetTabIdx⟩ := found
      rw [hparse] at hresolve
      dsimp only at hresolve
      split at hresolve
      · cases hresolve
      next hsame =>
      obtain ⟨ws, hws', hresolve⟩ := Option.bind_eq_some_iff.mp hresolve
      obtain ⟨tab, ht, hresolve⟩ := Option.bind_eq_some_iff.mp hresolve
      rw [publicTabId_eq hws' ht] at hresolve
      have htab := List.mem_of_getElem? ht
      have hmem := List.mem_of_getElem? hws'
      have hconsistent := (h.valid ws hmem).1
      have hv := hconsistent.tabs_valid tab htab
      have hbound := (hconsistent.tab_number_lt tab htab).trans_le (hfits ws hmem).1
      have hfinish : ∀ target ∈ tab.panes, resolved = .existingTab
          (publicTabIdForNumber ws.id tab.number) target split (ratio.getD (.finite (1 / 2)))
          (sourceWsIdx ≠ targetWsIdx) →
          moveCrossesWorkspace source.id resolved = true ∧
              Reaches (st.workspaces.filter fun ws => ws.id ≠ source.id) resolved ∨
            moveCrossesWorkspace source.id resolved = false ∧
              Stays source sourcePaneId resolved := by
        rintro target htarget rfl
        by_cases he : sourceWsIdx = targetWsIdx
        · subst he
          obtain rfl : source = ws := Option.some.inj (hws.symm.trans hws')
          refine .inr ⟨decide_eq_false (not_not.mpr rfl), tab, htab, fun hin => ?_, rfl, htarget,
            hbound⟩
          obtain ⟨tab', ht', hin'⟩ := Workspace.findTabIndexForPane_spec hfind
          exact hsame ⟨rfl, eq_of_mem_panes hconsistent.panes_nodup ht' ht hin' hin⟩
        · refine .inl ⟨decide_eq_true he, ws, List.mem_filter.mpr ⟨hmem, decide_eq_true ?_⟩, tab,
            htab, rfl, htarget, hbound⟩
          exact fun hid => he (eq_of_id_eq h.idsGenerated.1 hws hws' hid).symm
      split at hresolve
      · cases hresolve
      · cases targetPaneId with
        | none =>
          cases hresolve
          exact hfinish _ ((hv.layout_panes _).mp hv.focus_mem) rfl
        | some raw =>
          dsimp only at hresolve
          split at hresolve
          · cases hresolve
          · next paneWsIdx paneId hpane =>
            obtain ⟨paneWs, hpaneWs, hresolve⟩ := Option.bind_eq_some_iff.mp hresolve
            split at hresolve
            · cases hresolve
            · next htarget =>
              cases hresolve
              obtain ⟨rfl, hfindPane⟩ := not_or.mp htarget |>.imp not_not.mp not_not.mp
              obtain rfl : paneWs = ws := Option.some.inj (hpaneWs.symm.trans hws')
              obtain ⟨tab', ht', hin⟩ := Workspace.findTabIndexForPane_spec hfindPane
              obtain rfl : tab' = tab := Option.some.inj (ht'.symm.trans ht)
              exact hfinish paneId hin rfl
  | newTab workspaceId label =>
    cases workspaceId with
    | none =>
      cases hresolve
      exact .inr ⟨decide_eq_false (not_not.mpr rfl), rfl⟩
    | some workspaceId =>
      unfold AppState.resolvePaneMoveDestination at hresolve
      dsimp only at hresolve
      cases hparse : st.parseWorkspaceId workspaceId with
      | none =>
        rw [hparse] at hresolve
        cases hresolve
      | some wsIdx =>
        rw [hparse] at hresolve
        obtain ⟨id, hid, hresolve⟩ := Option.bind_eq_some_iff.mp hresolve
        cases hresolve
        obtain ⟨ws, hws', rfl⟩ := Option.map_eq_some_iff.mp hid
        by_cases he : ws.id = source.id
        · exact .inr ⟨decide_eq_false (not_not.mpr he), he⟩
        · exact .inl ⟨decide_eq_true he, ws, List.mem_filter.mpr
            ⟨List.mem_of_getElem? hws', decide_eq_true he⟩, rfl⟩
  | newWorkspace label tabLabel =>
    cases hresolve
    exact .inl ⟨rfl, trivial⟩

lemma Identified.handlePaneMove (h : st.Identified) (hfits : st.FitsUsize) {paneId : String}
    {destination : PaneMoveDestination} {focus : Bool}
    (hmove : st.handlePaneMove paneId destination focus = some st') : st'.Identified := by
  unfold AppState.handlePaneMove at hmove
  cases hparse : st.parsePaneId paneId with
  | none =>
    rw [hparse] at hmove
    cases hmove
    exact h
  | some found =>
    obtain ⟨sourceWsIdx, sourcePaneId⟩ := found
    rw [hparse] at hmove
    obtain ⟨source, hws, hmove⟩ := Option.bind_eq_some_iff.mp hmove
    have hmem := List.mem_of_getElem? hws
    have hconsistent := (h.valid source hmem).1
    cases hfind : source.findTabIndexForPane sourcePaneId with
    | none =>
      rw [hfind] at hmove
      cases hmove
      exact h
    | some sourceTabIdx =>
      rw [hfind] at hmove
      obtain ⟨sourceTab, ht, hmove⟩ := Option.bind_eq_some_iff.mp hmove
      split at hmove
      · cases hmove
        exact h
      · obtain ⟨resolved, hresolve, hmove⟩ := Option.bind_eq_some_iff.mp hmove
        cases resolved with
        | none =>
          cases hmove
          exact h
        | some resolved =>
          obtain ⟨tab', ht', hin⟩ := Workspace.findTabIndexForPane_spec hfind
          have hpane : sourcePaneId ∈ paneIds source.tabs :=
            mem_paneIds.mpr ⟨tab', List.mem_of_getElem? ht', hin⟩
          obtain ⟨number, hnumber⟩ := Option.isSome_iff_exists.mp
            (AList.lookup_isSome.mpr ((hconsistent.public_iff sourcePaneId).mpr hpane))
          rw [publicPaneId_eq hws, hnumber] at hmove
          obtain ⟨source₁, taken, t⟩ := exists_takes hconsistent hpane
          refine Identified.of_movePaneTo hws t hmove fun st₃ placed hplace => ?_
          obtain ⟨hcross, hreaches⟩ | ⟨hcross, hstays⟩ :=
            resolvePaneMoveDestination_spec h hfits hws hfind hresolve
          · rw [hcross] at hplace
            obtain ⟨h₂, hfresh, hothers⟩ := h.withPaneTaken_cross hws t hnumber
            have hmoved : (sourcePaneId, taken.moved.paneState.attachedTerminalId) =
                (taken.moved.paneId, taken.moved.paneState.attachedTerminalId) := by rw [t.moved]
            rw [hmoved] at hfresh
            refine h₂.placeMovedPane hfresh (hreaches.mono fun ws hws => ?_) hplace
            obtain ⟨hws, hid⟩ := List.mem_filter.mp hws
            exact hothers ws hws (of_decide_eq_true hid)
          · rw [hcross] at hplace
            exact h.placeMovedPane_within hws t hstays hplace

end

end AppState

/-! ### Runs -/

/-- What clients and the server do to workspaces, tabs and panes. What the allocators and a spawn
return is given. -/
inductive AppOp
  | createWorkspace (focus : Bool) (rootId : PaneId) (spawned : Option TerminalId)
  | tabCreate (workspaceId : Option String) (focus : Bool) (label : Option String)
    (rootId : PaneId) (spawned : Option TerminalId)
  | paneSplit (targetPaneId workspaceId : Option String) (direction : Direction)
    (ratio : Option F32) (focus : Bool) (newId : PaneId) (spawned : Option TerminalId)
  | tabMove (tabId : String) (insertIndex : Nat)
  | workspaceMove (workspaceId : String) (insertIndex : Nat)
  | workspaceClose (workspaceId : String)
  | tabClose (tabId : String)
  | closePane (paneId : String)
  | paneDied (paneId : PaneId)
  | paneMove (paneId : String) (destination : PaneMoveDestination) (focus : Bool)

namespace AppOp

def apply (st : AppState) : AppOp → Option AppState
  | .createWorkspace focus rootId spawned => some (st.createWorkspace focus rootId spawned)
  | .tabCreate workspaceId focus label rootId spawned =>
    st.handleTabCreate workspaceId focus label rootId spawned
  | .paneSplit targetPaneId workspaceId direction ratio focus newId spawned =>
    st.handlePaneSplit targetPaneId workspaceId direction ratio focus newId spawned
  | .tabMove tabId insertIndex => some (st.handleTabMove tabId insertIndex)
  | .workspaceMove workspaceId insertIndex => st.handleWorkspaceMove workspaceId insertIndex
  | .workspaceClose workspaceId => st.handleWorkspaceClose workspaceId
  | .tabClose tabId => some (st.handleTabClose tabId)
  | .closePane paneId => st.closePane paneId
  | .paneDied paneId => st.handlePaneDied paneId
  | .paneMove paneId destination focus => st.handlePaneMove paneId destination focus

/-- The pane and the terminal that come from outside. -/
def brings : AppOp → Option (PaneId × Option TerminalId)
  | .createWorkspace _ rootId spawned => some (rootId, spawned)
  | .tabCreate _ _ _ rootId spawned => some (rootId, spawned)
  | .paneSplit _ _ _ _ _ newId spawned => some (newId, spawned)
  | _ => none

/-- A step of the application: the allocators return ids that are not in use, nothing panics, and
the counters stay below the bound of their type. -/
def Step (st : AppState) (op : AppOp) (st' : AppState) : Prop :=
  (∀ paneId spawned, op.brings = some (paneId, spawned) → st.FreshPane paneId spawned) ∧
    op.apply st = some st' ∧ st'.FitsUsize

end AppOp

section
variable {st st' : AppState} {op : AppOp} {ops : List AppOp}

lemma AppOp.Step.identified (hs : AppOp.Step st op st') (h : st.Identified)
    (hfits : st.FitsUsize) : st'.Identified := by
  obtain ⟨hfresh, happly, -⟩ := hs
  cases op with
  | createWorkspace focus rootId spawned =>
    cases happly
    exact h.createWorkspace (hfresh rootId spawned rfl) focus
  | tabCreate workspaceId focus label rootId spawned =>
    exact h.handleTabCreate (hfresh rootId spawned rfl) happly
  | paneSplit targetPaneId workspaceId direction ratio focus newId spawned =>
    exact h.handlePaneSplit (hfresh newId spawned rfl) happly
  | tabMove tabId insertIndex =>
    cases happly
    exact h.handleTabMove tabId insertIndex
  | workspaceMove workspaceId insertIndex => exact h.handleWorkspaceMove happly
  | workspaceClose workspaceId => exact h.handleWorkspaceClose happly
  | tabClose tabId =>
    cases happly
    exact h.handleTabClose tabId
  | closePane paneId => exact h.closePane happly
  | paneDied paneId => exact h.handlePaneDied happly
  | paneMove paneId destination focus => exact h.handlePaneMove hfits happly

lemma fresh_identified : AppState.fresh.Identified where
  apart := .nil
  valid := fun _ h => absurd h List.not_mem_nil
  generated := fun _ h => absurd h List.not_mem_nil
  retired := fun key paneId h => by cases h
  next_pos := Nat.one_pos

lemma run_identified (hrun : Run AppOp.Step .fresh ops st) : st.Identified ∧ st.FitsUsize := by
  have hstep : ∀ st op st', st.Identified ∧ st.FitsUsize → AppOp.Step st op st' →
      st'.Identified ∧ st'.FitsUsize := fun st op st' h hs => ⟨hs.identified h.1 h.2, hs.2.2⟩
  exact hrun.invariant hstep ⟨fresh_identified, fun _ h => absurd h List.not_mem_nil⟩

lemma AppOp.Step.of_createWorkspace {focus : Bool} {rootId : PaneId}
    {spawned : Option TerminalId} (hfresh : st.FreshPane rootId spawned)
    (hfits : (st.createWorkspace focus rootId spawned).FitsUsize) :
    AppOp.Step st (.createWorkspace focus rootId spawned)
      (st.createWorkspace focus rootId spawned) :=
  ⟨fun _ _ he => by cases he; exact hfresh, rfl, hfits⟩

/-- No alias has the public id of a pane that is there. -/
lemma AppState.Identified.alias_eq_none (h : st.Identified) {i : Nat} {ws : Workspace}
    (hws : st.workspaces[i]? = some ws) {paneId : PaneId} {number : Nat}
    (hnumber : ws.publicPaneNumbers.lookup paneId = some number) :
    st.publicPaneIdAliases.lookup (publicPaneIdForNumber ws.id number) = none := by
  have hmem := List.mem_of_getElem? hws
  cases hlookup : st.publicPaneIdAliases.lookup (publicPaneIdForNumber ws.id number) with
  | none => rfl
  | some other =>
    obtain ⟨n, k, hn, hlt, hk, hkey, hretired⟩ := h.retired _ other hlookup
    have hpos := (h.valid ws hmem).1.pane_number_pos paneId number hnumber
    obtain ⟨hid, rfl⟩ := publicPaneIdForNumber_injOn hpos hk hkey
    exact absurd hnumber ((hretired ws hmem hid).2 paneId)

/-- Public ids are read back as what they were made for. -/
theorem public_ids_round_trip (hrun : Run AppOp.Step .fresh ops st) :
    (∀ i ws, st.workspaces[i]? = some ws →
      ∃ id, st.publicWorkspaceId i = some id ∧ st.parseWorkspaceId id = some i) ∧
    (∀ i ws j tab, st.workspaces[i]? = some ws → ws.tabs[j]? = some tab →
      ∃ id, st.publicTabId i j = some id ∧ st.parseTabId id = some (i, j)) ∧
    (∀ i ws paneId, st.workspaces[i]? = some ws → paneId ∈ paneIds ws.tabs →
      ∃ id, st.publicPaneId i paneId = some id ∧ st.parsePaneId id = some (i, paneId) ∧
        ∀ other, st.publicPaneIdAliases.lookup id = some other → other = paneId) := by
  obtain ⟨h, hfits⟩ := run_identified hrun
  have hids := h.idsGenerated
  refine ⟨fun i ws hws => ?_, fun i ws j tab hws ht => ?_, fun i ws paneId hws hpane => ?_⟩
  · refine ⟨ws.id, ?_, parseWorkspaceId_id hids.1 hws⟩
    rw [AppState.publicWorkspaceId, hws]
    rfl
  · have hmem := List.mem_of_getElem? hws
    have hconsistent := (h.valid ws hmem).1
    have htab := List.mem_of_getElem? ht
    exact ⟨_, publicTabId_eq hws ht, parseTabId_publicTabId hids hws hconsistent.tab_numbers_nodup
      ht (hconsistent.tabs_valid tab htab).number_pos
      ((hconsistent.tab_number_lt tab htab).trans_le (hfits ws hmem).1)⟩
  · have hmem := List.mem_of_getElem? hws
    have hconsistent := (h.valid ws hmem).1
    obtain ⟨number, hnumber⟩ := Option.isSome_iff_exists.mp
      (AList.lookup_isSome.mpr ((hconsistent.public_iff paneId).mpr hpane))
    have halias := h.alias_eq_none hws hnumber
    refine ⟨publicPaneIdForNumber ws.id number, ?_, ?_, fun other hother => ?_⟩
    · rw [publicPaneId_eq hws, hnumber]
      rfl
    · exact parsePaneId_publicPaneId hids hws hconsistent hnumber
        ((hconsistent.pane_number_lt paneId number hnumber).trans_le (hfits ws hmem).2) halias
    · rw [halias] at hother
      cases hother

theorem public_ids_round_trip_moved :
    ∃ st, Run AppOp.Step .fresh [.createWorkspace true ⟨1⟩ (some ⟨"term_1"⟩),
        .createWorkspace false ⟨2⟩ (some ⟨"term_2"⟩),
        .paneMove "w1:p1" (.newTab (some "w2") none) false] st ∧
      st.publicPaneIdAliases.lookup "w1:p1" = some ⟨1⟩ ∧
      ∃ id, st.publicPaneId 0 ⟨1⟩ = some id ∧ st.parsePaneId id = some (0, ⟨1⟩) ∧
        ∀ other, st.publicPaneIdAliases.lookup id = some other → other = ⟨1⟩ := by
  have hmove : (((AppState.fresh.createWorkspace true ⟨1⟩ (some ⟨"term_1"⟩)).createWorkspace false
      ⟨2⟩ (some ⟨"term_2"⟩)).handlePaneMove "w1:p1" (.newTab (some "w2") none) false).isSome := by
    decide
  have hlen : 0 < (Option.get _ hmove).workspaces.length := by decide +revert
  have halias : (Option.get _ hmove).publicPaneIdAliases.lookup "w1:p1" = some ⟨1⟩ := by
    decide +revert
  have hpane : ⟨1⟩ ∈ paneIds ((Option.get _ hmove).workspaces[0]).tabs := by
    decide +revert
  have hrun : Run AppOp.Step .fresh [.createWorkspace true ⟨1⟩ (some ⟨"term_1"⟩),
      .createWorkspace false ⟨2⟩ (some ⟨"term_2"⟩),
      .paneMove "w1:p1" (.newTab (some "w2") none) false] (Option.get _ hmove) := by
    refine .cons (.of_createWorkspace ?_ ?_) (.cons (.of_createWorkspace ?_ ?_)
      (.cons ⟨fun _ _ he => (nomatch he), (Option.some_get hmove).symm, ?_⟩ (.nil _)))
    all_goals decide +revert
  obtain ⟨-, -, hpanes⟩ := public_ids_round_trip hrun
  exact ⟨_, hrun, halias, hpanes 0 _ ⟨1⟩ (List.getElem?_eq_getElem hlen) hpane⟩
end

end Ork3.App
