import Ork3.Library.Text
import Ork3.Model.PublicIds

/-!
# The state of the application

The part of `AppState` that names workspaces, tabs and panes, and how `app/ids.rs` resolves the
identifiers of clients.
-/

namespace Ork3.App

open Ork3.Library Ork3.Layout Ork3.Workspaces

/-! ### What refers to workspaces, tabs and panes -/

structure PaneFocusTarget where
  workspaceId : String
  paneId : PaneId
deriving DecidableEq

structure ToastTarget where
  workspaceId : String
  paneId : PaneId
deriving DecidableEq

structure ToastNotification where
  target : Option ToastTarget
deriving DecidableEq

structure PendingAgentNotification where
  paneId : PaneId
  workspaceId : String
deriving DecidableEq

/-- A terminal popup. It is outside the layouts of the workspaces. -/
structure PopupPaneState where
  paneId : PaneId
  terminalId : TerminalId
deriving DecidableEq

inductive CopyModeSelection
  | character
  | linewise (anchorRow : UInt32)
deriving DecidableEq

structure CopyModeState where
  paneId : PaneId
  selection : Option CopyModeSelection
deriving DecidableEq

structure Selection where
  paneId : PaneId
deriving DecidableEq

inductive SelectionAutoscrollDirection
  | up | down
deriving DecidableEq

/-- Drags that name no workspace, tab or pane are `other`. -/
inductive DragTarget
  | workspaceReorder (sourceWsIdx : Nat) (insertIdx : Option Nat)
  | tabReorder (wsIdx sourceTabIdx : Nat) (insertIdx : Option Nat)
  | paneScrollbar (paneId : PaneId)
  | other
deriving DecidableEq

structure WorkspacePressState where
  wsIdx : Nat
deriving DecidableEq

structure TabPressState where
  wsIdx : Nat
  tabIdx : Nat
deriving DecidableEq

inductive ContextMenuKind
  | workspace (wsIdx : Nat)
  | gitWorkspace (wsIdx : Nat)
  | tab (wsIdx tabIdx : Nat)
  | pane (wsIdx tabIdx : Nat) (paneId : PaneId) (sourcePaneId : Option PaneId)
deriving DecidableEq

inductive Mode
  | onboarding | releaseNotes | productAnnouncement | navigate | prefixKeys | copy | terminal
  | renameWorkspace | renameTab | renamePane | newLinkedWorktree | openExistingWorktree
  | confirmRemoveWorktree | resize | confirmClose | contextMenu | settings | globalMenu
  | keybindHelp | navigator | projectHistory
deriving DecidableEq

structure AppState where
  terminals : Finset TerminalId
  paneIdAliases : Table UInt32 PaneId
  publicPaneIdAliases : Table String PaneId
  workspaces : List Workspace
  active : Option Nat
  previousPaneFocus : Option PaneFocusTarget
  selected : Nat
  mode : Mode
  copyMode : Option CopyModeState
  selection : Option Selection
  selectionAutoscroll : Option SelectionAutoscrollDirection
  renamePaneTarget : Option PaneId
  toast : Option ToastNotification
  pendingAgentNotifications : Table PaneId PendingAgentNotification
  pluginPanes : Finset PaneId
  popupPane : Option PopupPaneState
  rightClickPassthrough : Option PaneId
  drag : Option DragTarget
  workspacePress : Option WorkspacePressState
  tabPress : Option TabPressState
  contextMenu : Option ContextMenuKind
  confirmClose : Bool
  terminalRuntimeShutdowns : List TerminalId
  /-- The counter behind `generate_workspace_id`. -/
  nextWorkspaceId : Nat

namespace AppState

/-- A state without workspaces. -/
def fresh : AppState where
  terminals := ∅
  paneIdAliases := ∅
  publicPaneIdAliases := ∅
  workspaces := []
  active := none
  previousPaneFocus := none
  selected := 0
  mode := .navigate
  copyMode := none
  selection := none
  selectionAutoscroll := none
  renamePaneTarget := none
  toast := none
  pendingAgentNotifications := ∅
  pluginPanes := ∅
  popupPane := none
  rightClickPassthrough := none
  drag := none
  workspacePress := none
  tabPress := none
  contextMenu := none
  confirmClose := true
  terminalRuntimeShutdowns := []
  nextWorkspaceId := 1

/-! ### Identifiers -/

/-- The workspace of a pane. -/
def findPane (st : AppState) (paneId : PaneId) : Option Nat :=
  st.workspaces.findIdx? fun ws => (ws.paneState paneId).isSome

/-- `none` is the panic of an index out of range. -/
def publicWorkspaceId (st : AppState) (wsIdx : Nat) : Option String :=
  st.workspaces[wsIdx]?.map (·.id)

def publicTabId (st : AppState) (wsIdx tabIdx : Nat) : Option String := do
  let ws ← st.workspaces[wsIdx]?
  let tabNumber ← ws.publicTabNumber tabIdx
  some (publicTabIdForNumber ws.id tabNumber)

def publicPaneId (st : AppState) (wsIdx : Nat) (paneId : PaneId) : Option String := do
  let ws ← st.workspaces[wsIdx]?
  let paneNumber ← ws.publicPaneNumber paneId
  some (publicPaneIdForNumber ws.id paneNumber)

def checkedPred (n : Nat) : Option Nat := if n = 0 then none else some (n - 1)

/-- The position a number counted from one stands for. -/
def parsePosition (text : List Char) : Option Nat :=
  (parseUnsigned (usizeBound - 1) text).bind checkedPred

def parseWorkspaceIdFrom (st : AppState) (id : List Char) : Option Nat :=
  (st.workspaces.findIdx? fun ws => ws.id.toList = id).orElse fun _ =>
    ((stripStart ['w', '_'] id).bind parsePosition).orElse fun _ => parsePosition id

def parseWorkspaceId (st : AppState) (id : String) : Option Nat :=
  st.parseWorkspaceIdFrom id.toList

def parseTabId (st : AppState) (id : String) : Option (Nat × Nat) :=
  match stripStart ['t', '_'] id.toList with
  | some rest => do
    let (wsRaw, tabRaw) ← rsplitOnce ['_'] rest
    let wsIdx ← st.parseWorkspaceIdFrom wsRaw
    let tabIdx ← parsePosition tabRaw
    let _ ← (← st.workspaces[wsIdx]?).tabs[tabIdx]?
    some (wsIdx, tabIdx)
  | none => do
    let (wsRaw, tabRaw) ← rsplitOnce [':'] id.toList
    let wsIdx ← st.parseWorkspaceIdFrom wsRaw
    let tabIdx ← match stripStart ['t'] tabRaw with
      | some encoded => do
        let tabNumber ← decodePublicNumber encoded
        (← st.workspaces[wsIdx]?).tabs.findIdx? fun tab => tab.number = tabNumber
      | none => parsePosition tabRaw
    let _ ← (← st.workspaces[wsIdx]?).tabs[tabIdx]?
    some (wsIdx, tabIdx)

def resolveRawPaneId (st : AppState) (raw : UInt32) : Option PaneId :=
  match st.paneIdAliases.lookup raw with
  | some pane => (st.findPane pane).map fun _ => pane
  | none => if (st.findPane ⟨raw⟩).isSome then some ⟨raw⟩ else none

def parseRawPaneId (text : List Char) : Option UInt32 :=
  (parseUnsigned (2 ^ 32 - 1) text).map UInt32.ofNat

/-- The pane with a public number. -/
def paneWithNumber (st : AppState) (wsIdx paneNumber : Nat) : Option (Nat × PaneId) := do
  let ws ← st.workspaces[wsIdx]?
  let entry ← ws.publicPaneNumbers.entries.find? fun entry => entry.2 = paneNumber
  some (wsIdx, entry.1)

def parsePaneId (st : AppState) (id : String) : Option (Nat × PaneId) :=
  match st.publicPaneIdAliases.lookup id with
  | some pane => (st.findPane pane).map fun wsIdx => (wsIdx, pane)
  | none =>
    match stripStart ['p', '_'] id.toList with
    | some rest =>
      match rsplitOnce ['_'] rest with
      | some (wsRaw, paneRaw) => do
        let wsIdx ← st.parseWorkspaceIdFrom wsRaw
        let paneId ← st.resolveRawPaneId (← parseRawPaneId paneRaw)
        let _ ← (← st.workspaces[wsIdx]?).paneState paneId
        some (wsIdx, paneId)
      | none => do
        let paneId ← st.resolveRawPaneId (← parseRawPaneId rest)
        (st.findPane paneId).map fun wsIdx => (wsIdx, paneId)
    | none =>
      match rsplitOnce [':', 'p'] id.toList with
      | some (wsRaw, paneNumberRaw) => do
        let wsIdx ← st.parseWorkspaceIdFrom wsRaw
        let paneNumber ← decodePublicNumber paneNumberRaw
        st.paneWithNumber wsIdx paneNumber
      | none => do
        let (wsRaw, paneNumberRaw) ← rsplitOnce ['-'] id.toList
        let wsIdx ← st.parseWorkspaceIdFrom wsRaw
        let paneNumber ← parseUnsigned (usizeBound - 1) paneNumberRaw
        st.paneWithNumber wsIdx paneNumber

end AppState

end Ork3.App
