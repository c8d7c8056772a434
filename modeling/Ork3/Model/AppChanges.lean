import Ork3.Model.AppState

/-!
# Creating, closing and moving

The functions of `app/actions.rs`, `app/creation.rs` and `app/api` that bring workspaces, tabs and
panes or take them away. Each is the change of the state; `none` is a panic. A request that is
refused leaves the state as it is where the source does.
-/

namespace Ork3.App

open Ork3.Library Ork3.Layout Ork3.Workspaces

namespace AppState

/-! ### Focus -/

def currentPaneFocusTarget (st : AppState) : Option PaneFocusTarget := do
  let ws ← st.workspaces[← st.active]?
  let paneId ← ws.focusedPaneId
  some ⟨ws.id, paneId⟩

def clearSelection (st : AppState) : AppState :=
  { st with
    selection := none
    selectionAutoscroll := none }

def clearCopyModeSelection (st : AppState) : AppState :=
  { st.clearSelection with
    copyMode := st.copyMode.map fun copyMode => { copyMode with selection := none } }

def copyModePaneIsFocused (st : AppState) : Bool :=
  match st.copyMode, st.currentPaneFocusTarget with
  | some copyMode, some target => target.paneId = copyMode.paneId
  | _, _ => false

def syncCopyModeWithFocus (st : AppState) : AppState :=
  if st.copyMode.isNone then st
  else if st.mode ∉ [Mode.copy, .terminal, .navigate, .prefixKeys] then st
  else if st.copyModePaneIsFocused then { st with mode := .copy }
  else
    { st.clearCopyModeSelection with
      mode := if st.active.isSome then .terminal else .navigate }

def settleTerminalModeAfterFocus (st : AppState) : AppState :=
  syncCopyModeWithFocus { st with mode := .terminal }

def recordPaneFocusChange (st : AppState) (previous : Option PaneFocusTarget) (wsIdx : Nat)
    (paneId : PaneId) : AppState :=
  match st.workspaces[wsIdx]? with
  | none => st
  | some ws =>
    if previous ≠ some ⟨ws.id, paneId⟩ then { st with previousPaneFocus := previous } else st

def recordPaneFocusAfterNavigation (st : AppState) (previous : Option PaneFocusTarget) :
    AppState :=
  if previous ≠ st.currentPaneFocusTarget then { st with previousPaneFocus := previous } else st

def syncSelectionAfterFocusNavigation (st : AppState) : AppState :=
  if st.copyMode.isSome then st.syncCopyModeWithFocus else st.clearSelection

/-- `switch_workspace_tab`, and with the active tab of the workspace `switch_workspace`. -/
def switchWorkspaceTab (st : AppState) (wsIdx tabIdx : Nat) : AppState :=
  match st.workspaces[wsIdx]? with
  | none => st
  | some ws =>
    if tabIdx < ws.tabs.length then
      let previousFocus := st.currentPaneFocusTarget
      let st := { st with
        active := some wsIdx
        selected := wsIdx
        workspaces := st.workspaces.set wsIdx (ws.switchTab tabIdx) }
      (st.recordPaneFocusAfterNavigation previousFocus).syncSelectionAfterFocusNavigation
    else st

def switchWorkspace (st : AppState) (idx : Nat) : AppState :=
  match st.workspaces[idx]? with
  | none => st
  | some ws =>
    let previousFocus := st.currentPaneFocusTarget
    let st := { st with
      active := some idx
      selected := idx
      workspaces := st.workspaces.set idx (ws.switchTab ws.activeTab) }
    (st.recordPaneFocusAfterNavigation previousFocus).syncSelectionAfterFocusNavigation

/-! ### Creating -/

def removeAliasShadowedByNewPane (st : AppState) (paneId : PaneId) : AppState :=
  { st with paneIdAliases := st.paneIdAliases.erase paneId.raw }

/-- `create_workspace_with_launch_env`; the id is made before the spawn. -/
def createWorkspace (st : AppState) (focus : Bool) (rootId : PaneId)
    (spawned : Option TerminalId) : AppState :=
  let id := generateWorkspaceId st.nextWorkspaceId
  let st := { st with nextWorkspaceId := st.nextWorkspaceId + 1 }
  match Workspace.new id rootId spawned with
  | none => st
  | some ws =>
    let idx := st.workspaces.length
    let st := { st with
      terminals := st.terminals ∪ spawned.toFinset
      workspaces := st.workspaces ++ [ws] }
    let st := st.removeAliasShadowedByNewPane rootId
    if focus || st.active.isNone then { st.switchWorkspace idx with mode := .terminal } else st

/-- `handle_tab_create` with its workspace resolved. -/
def createTab (st : AppState) (wsIdx : Nat) (focus : Bool) (label : Option String)
    (rootId : PaneId) (spawned : Option TerminalId) : Option AppState :=
  match st.workspaces[wsIdx]? with
  | none => some st
  | some ws => do
    let (ws, created) ← ws.createTab rootId spawned
    match created with
    | none => some { st with workspaces := st.workspaces.set wsIdx ws }
    | some tabIdx =>
      let ws := match label with
        | none => ws
        | some label =>
          { ws with tabs := ws.tabs.modify tabIdx fun tab => { tab with customName := label } }
      let st := { st with
        terminals := st.terminals ∪ spawned.toFinset
        workspaces := st.workspaces.set wsIdx ws }
      let st := st.removeAliasShadowedByNewPane rootId
      if focus then some { st.switchWorkspaceTab wsIdx tabIdx with mode := .terminal }
      else some st

def handleTabCreate (st : AppState) (workspaceId : Option String) (focus : Bool)
    (label : Option String) (rootId : PaneId) (spawned : Option TerminalId) : Option AppState :=
  match workspaceId with
  | some workspaceId =>
    match st.parseWorkspaceId workspaceId with
    | none => some st
    | some wsIdx => st.createTab wsIdx focus label rootId spawned
  | none =>
    match st.active with
    | none => some st
    | some active => st.createTab active focus label rootId spawned

/-- The pane a split request names, or the focused pane of the workspace it names. -/
def splitTarget (st : AppState) (targetPaneId workspaceId : Option String) :
    Option (Nat × PaneId) :=
  match targetPaneId, workspaceId with
  | some targetPaneId, _ => st.parsePaneId targetPaneId
  | none, some workspaceId => do
    let wsIdx ← st.parseWorkspaceId workspaceId
    let paneId ← (← st.workspaces[wsIdx]?).focusedPaneId
    some (wsIdx, paneId)
  | none, none => do
    let wsIdx ← st.active
    let paneId ← (← st.workspaces[wsIdx]?).focusedPaneId
    some (wsIdx, paneId)

def handlePaneSplit (st : AppState) (targetPaneId workspaceId : Option String)
    (direction : Direction) (ratio : Option F32) (focus : Bool) (newId : PaneId)
    (spawned : Option TerminalId) : Option AppState :=
  match st.splitTarget targetPaneId workspaceId with
  | none => some st
  | some (wsIdx, target) =>
    let previousFocus := st.currentPaneFocusTarget
    match st.workspaces[wsIdx]? with
    | none => some st
    | some ws => do
      let (ws, result) ← ws.splitPaneWithRuntime target newId direction ratio focus spawned
      let st := { st with workspaces := st.workspaces.set wsIdx ws }
      match result with
      | none => some st
      | some (_, false) => some st
      | some (tabIdx, true) =>
        let st :=
          if focus then
            ((st.switchWorkspaceTab wsIdx tabIdx).recordPaneFocusChange previousFocus wsIdx
              newId).settleTerminalModeAfterFocus
          else st
        let st := st.removeAliasShadowedByNewPane newId
        some { st with terminals := st.terminals ∪ spawned.toFinset }

/-! ### Reordering -/

def handleTabMove (st : AppState) (tabId : String) (insertIndex : Nat) : AppState :=
  match st.parseTabId tabId with
  | none => st
  | some (wsIdx, tabIdx) =>
    match st.workspaces[wsIdx]? with
    | none => st
    | some ws =>
      if insertIndex > ws.tabs.length then st
      else { st with workspaces := st.workspaces.set wsIdx (ws.moveTab tabIdx insertIndex).1 }

def moveWorkspace (st : AppState) (sourceIdx insertIdx : Nat) : Option AppState :=
  match st.workspaces[sourceIdx]? with
  | none => some st
  | some workspace =>
    if insertIdx > st.workspaces.length then some st
    else
      let targetIdx := if sourceIdx < insertIdx then insertIdx - 1 else insertIdx
      if sourceIdx = targetIdx then some st
      else do
        let activeId ← match st.active with
          | none => some none
          | some idx => st.workspaces[idx]?.map fun ws => some ws.id
        let selectedId := st.workspaces[st.selected]?.map (·.id)
        let workspaces := (st.workspaces.eraseIdx sourceIdx).insertIdx targetIdx workspace
        let position := fun id : String => workspaces.findIdx? fun ws => ws.id = id
        some { st with
          workspaces := workspaces
          active := activeId.bind position
          selected := (selectedId.bind position).getD 0 }

def handleWorkspaceMove (st : AppState) (workspaceId : String) (insertIndex : Nat) :
    Option AppState :=
  match st.parseWorkspaceId workspaceId with
  | none => some st
  | some index => st.moveWorkspace index insertIndex

/-! ### Removing panes -/

def terminalIdsForWorkspace (st : AppState) (wsIdx : Nat) : List TerminalId :=
  (st.workspaces[wsIdx]?.map fun ws => terminalIds ws.tabs).getD []

/-- The panes in the layouts of a workspace. -/
def paneIdsForWorkspace (st : AppState) (wsIdx : Nat) : List PaneId :=
  (st.workspaces[wsIdx]?.map fun ws => ws.tabs.flatMap fun tab => tab.layout.paneIds).getD []

def terminalIdForPane (st : AppState) (wsIdx : Nat) (paneId : PaneId) : Option TerminalId := do
  let pane ← (← st.workspaces[wsIdx]?).paneState paneId
  some pane.attachedTerminalId

/-- The body of the loop of `remove_unattached_terminal_ids`. -/
def removeUnattachedTerminalId (st : AppState) (terminalId : TerminalId) : AppState :=
  if st.workspaces.any fun ws => terminalId ∈ terminalIds ws.tabs then st
  else
    { st with
      terminals := st.terminals.erase terminalId
      terminalRuntimeShutdowns :=
        if terminalId ∈ st.terminals ∧ terminalId ∉ st.terminalRuntimeShutdowns then
          st.terminalRuntimeShutdowns ++ [terminalId]
        else st.terminalRuntimeShutdowns }

def removeUnattachedTerminalIds (st : AppState) (terminalIds : List TerminalId) : AppState :=
  terminalIds.foldl removeUnattachedTerminalId st

def clearCopyModeForRemovedPanes (st : AppState) (paneIds : List PaneId) : AppState :=
  match st.copyMode with
  | none => st
  | some copyMode =>
    if copyMode.paneId ∈ paneIds then
      { st.clearSelection with
        copyMode := none
        mode :=
          if st.mode = .copy then if st.active.isSome then .terminal else .navigate
          else st.mode }
    else st

def removePluginPaneRecords (st : AppState) (paneIds : List PaneId) : AppState :=
  let st := st.clearCopyModeForRemovedPanes paneIds
  { st with
    previousPaneFocus := st.previousPaneFocus.filter fun focus => focus.paneId ∉ paneIds
    pluginPanes := st.pluginPanes \ paneIds.toFinset }

/-- `shutdown_detached_terminal_runtimes`, of which the state keeps nothing. -/
def shutdownDetachedTerminalRuntimes (st : AppState) : AppState :=
  { st with terminalRuntimeShutdowns := [] }

/-! ### Closing -/

/-- The workspaces with the worktree key of a workspace that is not itself a linked worktree. -/
def worktreeGroup (st : AppState) (wsIdx : Nat) : Option (List Nat) := do
  let space ← (← st.workspaces[wsIdx]?).worktreeSpace
  if space.isLinkedWorktree then none
  else
    some ((List.range st.workspaces.length).filter fun idx =>
      ((st.workspaces[idx]?.bind (·.worktreeSpace)).map (·.key)) = some space.key)

/-- What closes with the selected workspace. -/
def closeIndices (st : AppState) : List Nat :=
  ((st.worktreeGroup st.selected).filter fun indices => indices.length ≥ 2).getD [st.selected]

/-- `Vec::remove` of the indices from the last to the first. -/
def removeWorkspaces (workspaces : List Workspace) : List Nat → Option (List Workspace)
  | [] => some workspaces
  | idx :: indices => do
    let workspaces ← removeWorkspaces workspaces indices
    if idx < workspaces.length then some (workspaces.eraseIdx idx) else none

def closeSelectedWorkspace (st : AppState) : Option AppState :=
  if st.workspaces.isEmpty then some st
  else do
    let st := st.clearSelection
    let closeIndices := st.closeIndices
    let terminalIds := closeIndices.flatMap st.terminalIdsForWorkspace
    let paneIds := closeIndices.flatMap st.paneIdsForWorkspace
    let st := st.removePluginPaneRecords paneIds
    let workspaces ← removeWorkspaces st.workspaces closeIndices
    let st := removeUnattachedTerminalIds { st with workspaces := workspaces } terminalIds
    if st.workspaces.isEmpty then
      some { st with
        active := none
        selected := 0 }
    else
      let selected := min st.selected (st.workspaces.length - 1)
      some { st with
        active := some selected
        selected := selected }

def handleWorkspaceClose (st : AppState) (workspaceId : String) : Option AppState :=
  match st.parseWorkspaceId workspaceId with
  | none => some st
  | some index =>
    if st.workspaces[index]?.isNone then some st
    else do
      let paneIds := st.paneIdsForWorkspace index
      let st ← closeSelectedWorkspace { st with selected := index }
      some (st.removePluginPaneRecords paneIds).shutdownDetachedTerminalRuntimes

def handleTabClose (st : AppState) (tabId : String) : AppState :=
  match st.parseTabId tabId with
  | none => st
  | some (wsIdx, tabIdx) =>
    match st.workspaces[wsIdx]? with
    | none => st
    | some ws =>
      match ws.tabs[tabIdx]? with
      | none => st
      | some tab =>
        if ws.tabs.length ≤ 1 then st
        else
          let (ws, closed) := ws.closeTab tabIdx
          let st := { st with workspaces := st.workspaces.set wsIdx ws }
          if !closed then st
          else
            let st := st.removePluginPaneRecords tab.layout.paneIds
            let st := st.removeUnattachedTerminalIds
              (tab.panes.values.map PaneState.attachedTerminalId)
            st.shutdownDetachedTerminalRuntimes

def workspaceCloseWouldCloseWorktreeGroup (st : AppState) (wsIdx : Nat) : Bool :=
  match st.worktreeGroup wsIdx with
  | none => false
  | some indices => indices.length ≥ 2

def closePaneWouldCloseWorkspace (st : AppState) (wsIdx : Nat) (paneId : PaneId) : Bool :=
  match st.workspaces[wsIdx]? with
  | none => false
  | some ws =>
    match ws.findTabIndexForPane paneId with
    | none => false
    | some tabIdx =>
      match ws.tabs[tabIdx]? with
      | none => false
      | some tab => tab.layout.paneCount ≤ 1 && ws.tabs.length ≤ 1

/-- `close_pane` with its pane resolved. -/
def closeResolvedPane (st : AppState) (wsIdx : Nat) (paneId : PaneId) : Option AppState :=
  if (st.publicPaneId wsIdx paneId).isNone then some st
  else if st.closePaneWouldCloseWorkspace wsIdx paneId && st.confirmClose &&
      st.workspaceCloseWouldCloseWorktreeGroup wsIdx then
    some { st with
      selected := wsIdx
      mode := .confirmClose }
  else do
    let terminalId := st.terminalIdForPane wsIdx paneId
    let (ws, shouldCloseWorkspace) ← (← st.workspaces[wsIdx]?).closePane paneId
    let st := { st with workspaces := st.workspaces.set wsIdx ws }
    let st := st.removePluginPaneRecords [paneId]
    if shouldCloseWorkspace then do
      let st ← closeSelectedWorkspace { st with selected := wsIdx }
      some st.shutdownDetachedTerminalRuntimes
    else
      some (st.removeUnattachedTerminalIds terminalId.toList).shutdownDetachedTerminalRuntimes

def closePane (st : AppState) (paneId : String) : Option AppState :=
  match st.parsePaneId paneId with
  | none => some st
  | some (wsIdx, paneId) => st.closeResolvedPane wsIdx paneId

def handlePaneDied (st : AppState) (paneId : PaneId) : Option AppState :=
  let st := { st with
    pendingAgentNotifications := st.pendingAgentNotifications.erase paneId }
  let st := st.removePluginPaneRecords [paneId]
  match st.workspaces.findIdx? fun ws => (ws.findTabIndexForPane paneId).isSome with
  | none => some st
  | some wsIdx => do
    let st := if st.selection.any fun s => s.paneId = paneId then st.clearSelection else st
    let paneTerminalId := st.terminalIdForPane wsIdx paneId
    let workspaceTerminalIds := st.terminalIdsForWorkspace wsIdx
    let (ws, shouldCloseWorkspace) ← (← st.workspaces[wsIdx]?).removePane paneId
    let st := { st with
      paneIdAliases := st.paneIdAliases.retain fun _ pane => pane ≠ paneId
      publicPaneIdAliases := st.publicPaneIdAliases.retain fun _ pane => pane ≠ paneId
      workspaces := st.workspaces.set wsIdx ws }
    if shouldCloseWorkspace then
      let st := removeUnattachedTerminalIds
        { st with workspaces := st.workspaces.eraseIdx wsIdx } workspaceTerminalIds
      if st.workspaces.isEmpty then
        some { st with
          active := none
          selected := 0
          mode := if st.mode = .terminal then .navigate else st.mode }
      else
        some { st with
          active := st.active.map fun active =>
            if active ≥ st.workspaces.length then st.workspaces.length - 1 else active
          selected :=
            if st.selected ≥ st.workspaces.length then st.workspaces.length - 1
            else st.selected }
    else some (st.removeUnattachedTerminalIds paneTerminalId.toList)

/-! ### Moving a pane -/

end AppState

inductive PaneMoveDestination
  | tab (tabId : String) (targetPaneId : Option String) (split : Direction) (ratio : Option F32)
  | newTab (workspaceId label : Option String)
  | newWorkspace (label tabLabel : Option String)

inductive ResolvedPaneMoveDestination
  | existingTab (tabId : String) (targetPaneId : PaneId) (split : Direction) (ratio : F32)
      (crossWorkspace : Bool)
  | newTab (workspaceId : String) (label : Option String)
  | newWorkspace (label tabLabel : Option String)

structure PaneMoveRecoveryContext where
  sourceWsIdx : Nat
  previousWorkspaceId : String
  previousWorkspaceLabel : Option String
  previousTabLabel : Option String
  previousWorktreeSpace : Option WorktreeSpaceMembership

namespace AppState

/-- The destination of a move; `none` inside is a request that is answered without a move. -/
def resolvePaneMoveDestination (st : AppState) (sourceWsIdx sourceTabIdx : Nat)
    (previousWorkspaceId : String) :
    PaneMoveDestination → Option (Option ResolvedPaneMoveDestination)
  | .tab tabId targetPaneId split ratio =>
    match st.parseTabId tabId with
    | none => some none
    | some (targetWsIdx, targetTabIdx) =>
      if sourceWsIdx = targetWsIdx ∧ sourceTabIdx = targetTabIdx then some none
      else do
        let tab ← (← st.workspaces[targetWsIdx]?).tabs[targetTabIdx]?
        if tab.zoomed then some none
        else
          let target ← match targetPaneId with
            | none => some (some tab.layout.focus)
            | some raw =>
              match st.parsePaneId raw with
              | none => some none
              | some (paneWsIdx, paneId) => do
                let ws ← st.workspaces[paneWsIdx]?
                if paneWsIdx ≠ targetWsIdx ∨ ws.findTabIndexForPane paneId ≠ some targetTabIdx
                then some none
                else some (some paneId)
          match target, st.publicTabId targetWsIdx targetTabIdx with
          | some paneId, some targetTabId =>
            some (some (.existingTab targetTabId paneId split
              (ratio.getD (.finite (1 / 2))) (sourceWsIdx ≠ targetWsIdx)))
          | _, _ => some none
  | .newTab none label => some (some (.newTab previousWorkspaceId label))
  | .newTab (some workspaceId) label =>
    match st.parseWorkspaceId workspaceId with
    | none => some none
    | some wsIdx => do
      let targetWorkspaceId ← st.publicWorkspaceId wsIdx
      some (some (.newTab targetWorkspaceId label))
  | .newWorkspace label tabLabel => some (some (.newWorkspace label tabLabel))

def moveCrossesWorkspace (previousWorkspaceId : String) : ResolvedPaneMoveDestination → Bool
  | .existingTab _ _ _ _ crossWorkspace => crossWorkspace
  | .newTab workspaceId _ => workspaceId ≠ previousWorkspaceId
  | .newWorkspace _ _ => true

/-- The source workspace of a move that took its last pane. -/
def removeEmptiedWorkspace (st : AppState) (sourceWsIdx : Nat) : AppState :=
  let st := { st with workspaces := st.workspaces.eraseIdx sourceWsIdx }
  if st.workspaces.isEmpty then
    { st with
      active := none
      selected := 0 }
  else
    { st with
      active := st.active.map fun active =>
        if active = sourceWsIdx then min sourceWsIdx (st.workspaces.length - 1)
        else if active > sourceWsIdx then active - 1
        else active
      selected :=
        if st.selected = sourceWsIdx then min sourceWsIdx (st.workspaces.length - 1)
        else if st.selected > sourceWsIdx then st.selected - 1
        else st.selected }

def recoverFailedPaneMove (st : AppState) (context : PaneMoveRecoveryContext)
    (moved : MovedPane) : Option AppState :=
  match st.parseWorkspaceId context.previousWorkspaceId with
  | some wsIdx => do
    let ws ← st.workspaces[wsIdx]?
    some { st with
      workspaces := st.workspaces.set wsIdx
        (ws.createTabFromExistingPane moved context.previousTabLabel).1 }
  | none =>
    let workspace := { Workspace.fromExistingPane context.previousWorkspaceId
        context.previousWorkspaceLabel context.previousTabLabel moved with
      worktreeSpace := context.previousWorktreeSpace }
    let insertIdx := min context.sourceWsIdx st.workspaces.length
    some { st with
      nextWorkspaceId := st.nextWorkspaceId + 1
      active := st.active.map fun active => if active ≥ insertIdx then active + 1 else active
      selected :=
        if st.selected ≥ insertIdx ∧ ¬st.workspaces.isEmpty then st.selected + 1
        else st.selected
      workspaces := st.workspaces.insertIdx insertIdx workspace }

/-- Puts the pane where it goes; `none` inside is a move that failed and was undone. -/
def placeMovedPane (st : AppState) (context : PaneMoveRecoveryContext) (moved : MovedPane)
    (focus : Bool) : ResolvedPaneMoveDestination → Option (AppState × Option (Nat × Nat))
  | .existingTab tabId targetPaneId split ratio _ =>
    match st.parseTabId tabId with
    | none => (st.recoverFailedPaneMove context moved).map fun st => (st, none)
    | some (targetWsIdx, targetTabIdx) => do
      let ws ← st.workspaces[targetWsIdx]?
      let previousTargetFocus := (← ws.tabs[targetTabIdx]?).layout.focus
      let (ws, inserted) := ws.insertMovedPaneIntoTab targetTabIdx targetPaneId moved split ratio
      match inserted with
      | none =>
        (recoverFailedPaneMove { st with workspaces := st.workspaces.set targetWsIdx ws }
          context moved).map fun st => (st, none)
      | some _ =>
        let ws :=
          if focus then ws
          else
            { ws with
              tabs := ws.tabs.modify targetTabIdx fun tab =>
                { tab with layout := tab.layout.focusPane previousTargetFocus } }
        some ({ st with workspaces := st.workspaces.set targetWsIdx ws },
          some (targetWsIdx, targetTabIdx))
  | .newTab workspaceId label =>
    match st.parseWorkspaceId workspaceId with
    | none => (st.recoverFailedPaneMove context moved).map fun st => (st, none)
    | some targetWsIdx => do
      let ws ← st.workspaces[targetWsIdx]?
      let (ws, tabIdx) := ws.createTabFromExistingPane moved label
      some ({ st with workspaces := st.workspaces.set targetWsIdx ws },
        some (targetWsIdx, tabIdx))
  | .newWorkspace label tabLabel =>
    let ws := Workspace.fromExistingPane (generateWorkspaceId st.nextWorkspaceId) label tabLabel
      moved
    some ({ st with
      nextWorkspaceId := st.nextWorkspaceId + 1
      workspaces := st.workspaces ++ [ws] }, some (st.workspaces.length, 0))

/-- The move once its source and its destination are resolved. -/
def movePaneTo (st : AppState) (sourceWsIdx : Nat) (sourcePaneId : PaneId)
    (previousPaneId : String) (context : PaneMoveRecoveryContext) (focus : Bool)
    (resolved : ResolvedPaneMoveDestination) : Option AppState := do
  let previousFocus := st.currentPaneFocusTarget
  match st.workspaces[sourceWsIdx]? with
  | none => some st
  | some source =>
    let (source, taken) ← source.takePaneForMove sourcePaneId
    match taken with
    | none => some { st with workspaces := st.workspaces.set sourceWsIdx source }
    | some taken =>
      let crossWorkspace := moveCrossesWorkspace context.previousWorkspaceId resolved
      let source := if crossWorkspace then source.unregisterMovedPane sourcePaneId else source
      let st := { st with
        workspaces := st.workspaces.set sourceWsIdx source
        publicPaneIdAliases :=
          if crossWorkspace then st.publicPaneIdAliases.insert previousPaneId sourcePaneId
          else st.publicPaneIdAliases }
      let st :=
        if taken.workspaceEmpty && crossWorkspace then st.removeEmptiedWorkspace sourceWsIdx
        else st
      let (st, placed) ← st.placeMovedPane context taken.moved focus resolved
      match placed with
      | none => some st
      | some (targetWsIdx, targetTabIdx) =>
        let st :=
          if focus || st.active.isNone then
            ((st.switchWorkspaceTab targetWsIdx targetTabIdx).recordPaneFocusChange previousFocus
              targetWsIdx taken.moved.paneId).settleTerminalModeAfterFocus
          else st
        some (st.removeAliasShadowedByNewPane taken.moved.paneId)

def handlePaneMove (st : AppState) (paneId : String) (destination : PaneMoveDestination)
    (focus : Bool) : Option AppState :=
  match st.parsePaneId paneId with
  | none => some st
  | some (sourceWsIdx, sourcePaneId) => do
    let source ← st.workspaces[sourceWsIdx]?
    match source.findTabIndexForPane sourcePaneId with
    | none => some st
    | some sourceTabIdx =>
      let previousPaneId := (st.publicPaneId sourceWsIdx sourcePaneId).getD paneId
      let sourceTab ← source.tabs[sourceTabIdx]?
      let context : PaneMoveRecoveryContext :=
        { sourceWsIdx := sourceWsIdx
          previousWorkspaceId := source.id
          previousWorkspaceLabel := source.customName
          previousTabLabel := sourceTab.customName
          previousWorktreeSpace := source.worktreeSpace }
      if sourceTab.zoomed then some st
      else
        match ← st.resolvePaneMoveDestination sourceWsIdx sourceTabIdx source.id destination with
        | none => some st
        | some resolved =>
          st.movePaneTo sourceWsIdx sourcePaneId previousPaneId context focus resolved

end AppState

end Ork3.App
