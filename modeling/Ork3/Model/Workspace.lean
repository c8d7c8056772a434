import Ork3.Library.Table
import Ork3.Model.Layout

/-!
# Workspaces, tabs and their panes

`workspace.rs` and `workspace/tab.rs`. What the allocators and a spawn return is an argument; a
function whose Rust original may panic returns an `Option`.
-/

namespace Ork3

structure TerminalId where
  value : String
deriving DecidableEq, Repr

namespace Workspaces
open Ork3.Library Ork3.Layout

/-- Viewport state for a pane. -/
structure PaneState where
  attachedTerminalId : TerminalId
  /-- Whether the user has seen this pane since its last state change to idle. -/
  seen : Bool
deriving DecidableEq

def PaneState.new (attachedTerminalId : TerminalId) : PaneState := ⟨attachedTerminalId, true⟩

/-- A pane on its way from one tab to another. -/
structure MovedPane where
  paneId : PaneId
  paneState : PaneState
deriving DecidableEq

structure Tab where
  customName : Option String
  number : Nat
  /-- Identity source for this tab's pane tree. -/
  rootPane : PaneId
  layout : TileLayout
  panes : Table PaneId PaneState
  zoomed : Bool

namespace Tab

/-- `Tab::new_with_runtime`. The layout's id is allocated before the spawn, the terminal's after. -/
def new (number : Nat) (rootId : PaneId) (spawned : Option TerminalId) : Option Tab :=
  spawned.map fun terminalId =>
    { customName := none
      number := number
      rootPane := rootId
      layout := .new rootId
      panes := AList.singleton rootId (.new terminalId)
      zoomed := false }

def fromExistingPane (number : Nat) (customName : Option String) (moved : MovedPane) : Tab where
  customName := customName
  number := number
  rootPane := moved.paneId
  layout := ⟨.pane moved.paneId, moved.paneId⟩
  panes := AList.singleton moved.paneId moved.paneState
  zoomed := false

/-- `split_focused_with_runtime`: the tab afterwards, and whether the spawn succeeded. -/
def splitFocusedWithRuntime (tab : Tab) (newId : PaneId) (direction : Direction)
    (ratio : Option F32) (spawned : Option TerminalId) : Option (Tab × Bool) :=
  let previousFocus := tab.layout.focus
  let layout := (tab.layout.splitFocusedWithRatio newId direction
    (ratio.getD (.finite (1 / 2)))).1
  match spawned with
  | none => do
    let (layout, _) ← layout.closeFocused
    some ({ tab with layout := layout.focusPane previousFocus }, false)
  | some terminalId =>
    some ({ tab with
      layout := layout
      panes := tab.panes.insert newId (.new terminalId)
      zoomed := false }, true)

def promotedRootIfNeeded (tab : Tab) (closing : PaneId) : Option PaneId :=
  if tab.rootPane ≠ closing then none
  else tab.layout.paneIds.find? fun id => id ≠ closing

/-- Closes a pane of the layout and leaves the focus on another pane where it was. -/
def closeInLayout (layout : TileLayout) (paneId : PaneId) : Option TileLayout :=
  if layout.focus = paneId then layout.closeFocused.map Prod.fst
  else do
    let prevFocus := layout.focus
    let (layout, _) ← (layout.focusPane paneId).closeFocused
    some (layout.focusPane prevFocus)

def takePaneForMove (tab : Tab) (paneId : PaneId) : Option (Tab × Option MovedPane) :=
  if paneId ∉ tab.panes then some (tab, none)
  else do
    let tab ←
      if tab.layout.paneCount > 1 then do
        let nextRoot := tab.promotedRootIfNeeded paneId
        let layout ← closeInLayout tab.layout paneId
        some { tab with layout := layout, rootPane := nextRoot.getD tab.rootPane }
      else some tab
    match tab.panes.lookup paneId with
    | none => some (tab, none)
    | some paneState =>
      some ({ tab with panes := tab.panes.erase paneId, zoomed := false }, some ⟨paneId, paneState⟩)

/-- `none` in the second component is the refusal that gives the moved pane back. -/
def insertExistingPane (tab : Tab) (targetPaneId : PaneId) (moved : MovedPane)
    (direction : Direction) (ratio : F32) : Tab × Option PaneId :=
  let (layout, inserted) := tab.layout.insertPaneNear targetPaneId moved.paneId direction ratio
  if inserted then
    ({ tab with
      layout := layout
      panes := tab.panes.insert moved.paneId moved.paneState
      zoomed := false }, some moved.paneId)
  else ({ tab with layout := layout }, none)

def detachPane (tab : Tab) (paneId : PaneId) : Option (Tab × Option (PaneId × TerminalId)) :=
  if tab.layout.paneCount ≤ 1 then some (tab, none)
  else do
    let nextRoot := tab.promotedRootIfNeeded paneId
    let layout ← closeInLayout tab.layout paneId
    match tab.panes.lookup paneId with
    | none => some ({ tab with layout := layout }, none)
    | some pane =>
      some ({ tab with
        layout := layout
        panes := tab.panes.erase paneId
        zoomed := false
        rootPane := nextRoot.getD tab.rootPane }, some (paneId, pane.attachedTerminalId))

def closePane (tab : Tab) (paneId : PaneId) : Option (Tab × Option (PaneId × TerminalId)) :=
  tab.detachPane paneId

def removePane (tab : Tab) (paneId : PaneId) : Option (Tab × Option (PaneId × TerminalId)) :=
  tab.detachPane paneId

def markSeen (tab : Tab) : Tab :=
  { tab with panes := Table.map (fun pane => { pane with seen := true }) tab.panes }

end Tab

structure WorktreeSpaceMembership where
  key : String
  isLinkedWorktree : Bool
deriving DecidableEq

/-- A named workspace containing tabs. -/
structure Workspace where
  /-- Stable public workspace identity, independent of display order. -/
  id : String
  customName : Option String
  worktreeSpace : Option WorktreeSpaceMembership
  /-- Public pane numbers within this workspace. Closed pane numbers are not reused. -/
  publicPaneNumbers : Table PaneId Nat
  nextPublicPaneNumber : Nat
  nextPublicTabNumber : Nat
  tabs : List Tab
  activeTab : Nat

structure TakenPane where
  moved : MovedPane
  removedTabIdx : Option Nat
  workspaceEmpty : Bool

namespace Workspace

/-- `new_with_tab`. -/
def new (id : String) (rootId : PaneId) (spawned : Option TerminalId) : Option Workspace :=
  (Tab.new 1 rootId spawned).map fun tab =>
    { id := id
      customName := none
      worktreeSpace := none
      publicPaneNumbers := AList.singleton tab.rootPane 1
      nextPublicPaneNumber := 2
      nextPublicTabNumber := 2
      tabs := [tab]
      activeTab := 0 }

def fromExistingPane (id : String) (label tabLabel : Option String) (moved : MovedPane) :
    Workspace where
  id := id
  customName := label
  worktreeSpace := none
  publicPaneNumbers := AList.singleton moved.paneId 1
  nextPublicPaneNumber := 2
  nextPublicTabNumber := 2
  tabs := [.fromExistingPane 1 tabLabel moved]
  activeTab := 0

def registerNewPaneWithNumber (ws : Workspace) (paneId : PaneId) (number : Nat) : Workspace :=
  { ws with
    publicPaneNumbers := ws.publicPaneNumbers.insert paneId number
    nextPublicPaneNumber := max ws.nextPublicPaneNumber (number + 1) }

def unregisterPane (ws : Workspace) (paneId : PaneId) : Workspace :=
  { ws with publicPaneNumbers := ws.publicPaneNumbers.erase paneId }

def adjustActiveTabAfterRemoval (ws : Workspace) (removedIdx : Nat) : Workspace :=
  if ws.tabs.isEmpty then { ws with activeTab := 0 }
  else if ws.activeTab ≥ ws.tabs.length then { ws with activeTab := ws.tabs.length - 1 }
  else if removedIdx ≤ ws.activeTab ∧ ws.activeTab > 0 then
    { ws with activeTab := ws.activeTab - 1 }
  else ws

def findTabIndexForPane (ws : Workspace) (paneId : PaneId) : Option Nat :=
  ws.tabs.findIdx? fun tab => paneId ∈ tab.panes

def switchTab (ws : Workspace) (idx : Nat) : Workspace :=
  if idx < ws.tabs.length then
    { ws with activeTab := idx, tabs := ws.tabs.modify idx Tab.markSeen }
  else ws

/-- `create_tab_with_runtime`: the index of the new tab, or `none` when the spawn failed. -/
def createTab (ws : Workspace) (rootId : PaneId) (spawned : Option TerminalId) :
    Option (Workspace × Option Nat) := do
  let number := ws.nextPublicTabNumber
  let paneNumber := ws.nextPublicPaneNumber
  let ws := { ws with nextPublicTabNumber := ws.nextPublicTabNumber + 1 }
  let _ ← ws.tabs[ws.activeTab]?
  match Tab.new number rootId spawned with
  | none => some (ws, none)
  | some tab =>
    let ws := ws.registerNewPaneWithNumber tab.rootPane paneNumber
    some ({ ws with tabs := ws.tabs ++ [tab] }, some ((ws.tabs ++ [tab]).length - 1))

def closeTab (ws : Workspace) (idx : Nat) : Workspace × Bool :=
  match ws.tabs[idx]? with
  | none => (ws, false)
  | some tab =>
    if ws.tabs.length ≤ 1 then (ws, false)
    else
      let ws := { ws with tabs := ws.tabs.eraseIdx idx }
      let ws := tab.panes.keys.foldl unregisterPane ws
      if ws.activeTab ≥ ws.tabs.length then ({ ws with activeTab := ws.tabs.length - 1 }, true)
      else if idx ≤ ws.activeTab ∧ ws.activeTab > 0 then
        ({ ws with activeTab := ws.activeTab - 1 }, true)
      else (ws, true)

def moveTab (ws : Workspace) (sourceIdx insertIdx : Nat) : Workspace × Bool :=
  match ws.tabs[sourceIdx]? with
  | none => (ws, false)
  | some tab =>
    if insertIdx > ws.tabs.length then (ws, false)
    else
      let targetIdx :=
        min (if sourceIdx < insertIdx then insertIdx - 1 else insertIdx) (ws.tabs.length - 1)
      if sourceIdx = targetIdx then (ws, false)
      else
        let activeRootPane := ws.tabs[ws.activeTab]?.map Tab.rootPane
        let tabs := (ws.tabs.eraseIdx sourceIdx).insertIdx targetIdx tab
        let activeTab := (activeRootPane.bind fun rootPane =>
          tabs.findIdx? fun tab => tab.rootPane = rootPane).getD targetIdx
        ({ ws with tabs := tabs, activeTab := activeTab }, true)

/-- `none` inside is a pane of no tab; the flag tells whether the spawn succeeded. -/
def splitPaneWithRuntime (ws : Workspace) (paneId newId : PaneId) (direction : Direction)
    (ratio : Option F32) (focusNewPane : Bool) (spawned : Option TerminalId) :
    Option (Workspace × Option (Nat × Bool)) :=
  match ws.findTabIndexForPane paneId with
  | none => some (ws, none)
  | some tabIdx => do
    let paneNumber := ws.nextPublicPaneNumber
    let tab ← ws.tabs[tabIdx]?
    let previousFocus := tab.layout.focus
    let tab := { tab with layout := tab.layout.focusPane paneId }
    let (tab, ok) ← tab.splitFocusedWithRuntime newId direction ratio spawned
    let tab :=
      if !ok || !focusNewPane then { tab with layout := tab.layout.focusPane previousFocus }
      else tab
    let ws := { ws with tabs := ws.tabs.set tabIdx tab }
    let ws := if ok then ws.registerNewPaneWithNumber newId paneNumber else ws
    some (ws, some (tabIdx, ok))

/-- `remove_pane` and `close_pane` up to how the tab detaches the pane. -/
def detachPaneWith (detach : Tab → PaneId → Option (Tab × Option (PaneId × TerminalId)))
    (ws : Workspace) (paneId : PaneId) : Option (Workspace × Bool) :=
  match ws.findTabIndexForPane paneId with
  | none => some (ws, false)
  | some tabIdx => do
    let tab ← ws.tabs[tabIdx]?
    let tabCount := ws.tabs.length
    if tab.layout.paneCount ≤ 1 then
      if tabCount ≤ 1 then some (ws, true)
      else
        let ws := { ws with tabs := ws.tabs.eraseIdx tabIdx }
        let ws := ws.unregisterPane paneId
        if ws.activeTab ≥ ws.tabs.length then
          some ({ ws with activeTab := ws.tabs.length - 1 }, false)
        else if tabIdx ≤ ws.activeTab ∧ ws.activeTab > 0 then
          some ({ ws with activeTab := ws.activeTab - 1 }, false)
        else some (ws, false)
    else
      let (tab, removed) ← detach tab paneId
      let ws := { ws with tabs := ws.tabs.set tabIdx tab }
      match removed with
      | none => some (ws, false)
      | some (removed, _) => some (ws.unregisterPane removed, false)

/-- Remove a specific pane from this workspace without terminating its runtime. Returns true if the
workspace should close. -/
def removePane (ws : Workspace) (paneId : PaneId) : Option (Workspace × Bool) :=
  ws.detachPaneWith Tab.removePane paneId

def closePane (ws : Workspace) (paneId : PaneId) : Option (Workspace × Bool) :=
  ws.detachPaneWith Tab.closePane paneId

def takePaneForMove (ws : Workspace) (paneId : PaneId) : Option (Workspace × Option TakenPane) :=
  match ws.findTabIndexForPane paneId with
  | none => some (ws, none)
  | some tabIdx => do
    let tab ← ws.tabs[tabIdx]?
    if tab.layout.paneCount ≤ 1 then
      let ws := { ws with tabs := ws.tabs.eraseIdx tabIdx }
      let (_, moved) ← tab.takePaneForMove paneId
      match moved with
      | none => some (ws, none)
      | some moved =>
        let ws := ws.adjustActiveTabAfterRemoval tabIdx
        some (ws, some ⟨moved, some tabIdx, ws.tabs.isEmpty⟩)
    else
      let (tab, moved) ← tab.takePaneForMove paneId
      let ws := { ws with tabs := ws.tabs.set tabIdx tab }
      match moved with
      | none => some (ws, none)
      | some moved => some (ws, some ⟨moved, none, false⟩)

def unregisterMovedPane (ws : Workspace) (paneId : PaneId) : Workspace :=
  ws.unregisterPane paneId

/-- `none` in the second component is the refusal that gives the moved pane back. -/
def insertMovedPaneIntoTab (ws : Workspace) (tabIdx : Nat) (targetPaneId : PaneId)
    (moved : MovedPane) (direction : Direction) (ratio : F32) : Workspace × Option PaneId :=
  match ws.tabs[tabIdx]? with
  | none => (ws, none)
  | some tab =>
    let (tab, inserted) := tab.insertExistingPane targetPaneId moved direction ratio
    let ws := { ws with tabs := ws.tabs.set tabIdx tab }
    match inserted with
    | none => (ws, none)
    | some _ =>
      if moved.paneId ∉ ws.publicPaneNumbers then
        (ws.registerNewPaneWithNumber moved.paneId ws.nextPublicPaneNumber, some moved.paneId)
      else (ws, some moved.paneId)

def createTabFromExistingPane (ws : Workspace) (moved : MovedPane) (label : Option String) :
    Workspace × Nat :=
  let number := ws.nextPublicTabNumber
  let ws := { ws with nextPublicTabNumber := ws.nextPublicTabNumber + 1 }
  let tab := Tab.fromExistingPane number label moved
  let ws :=
    if moved.paneId ∉ ws.publicPaneNumbers then
      ws.registerNewPaneWithNumber moved.paneId ws.nextPublicPaneNumber
    else ws
  ({ ws with tabs := ws.tabs ++ [tab] }, (ws.tabs ++ [tab]).length - 1)

end Workspace

/-! ### The conditions of `assert_invariants_for_test` -/

/-- The panes of the given tabs. -/
def paneIds (tabs : List Tab) : List PaneId :=
  tabs.flatMap fun tab => tab.panes.keys

/-- The terminals attached to the panes of the given tabs. -/
def terminalIds (tabs : List Tab) : List TerminalId :=
  tabs.flatMap fun tab => tab.panes.values.map PaneState.attachedTerminalId

structure Tab.Valid (tab : Tab) : Prop where
  number_pos : 0 < tab.number
  root_mem : tab.rootPane ∈ tab.panes
  layout_nodup : tab.layout.paneIds.Nodup
  focus_mem : tab.layout.focus ∈ tab.layout.paneIds
  layout_panes : ∀ id, id ∈ tab.layout.paneIds ↔ id ∈ tab.panes

/-- The conditions for a workspace that may have lost its last tab to a move. -/
structure Workspace.Consistent (ws : Workspace) : Prop where
  active_lt : ws.tabs ≠ [] → ws.activeTab < ws.tabs.length
  tabs_valid : ∀ tab ∈ ws.tabs, tab.Valid
  tab_numbers_nodup : (ws.tabs.map Tab.number).Nodup
  panes_nodup : (paneIds ws.tabs).Nodup
  terminals_nodup : (terminalIds ws.tabs).Nodup
  next_tab_pos : 0 < ws.nextPublicTabNumber
  tab_number_lt : ∀ tab ∈ ws.tabs, tab.number < ws.nextPublicTabNumber
  public_iff : ∀ id, id ∈ ws.publicPaneNumbers ↔ id ∈ paneIds ws.tabs
  pane_number_pos : ∀ id n, ws.publicPaneNumbers.lookup id = some n → 0 < n
  pane_number_inj : ∀ id id' n, ws.publicPaneNumbers.lookup id = some n →
    ws.publicPaneNumbers.lookup id' = some n → id = id'
  next_pane_pos : 0 < ws.nextPublicPaneNumber
  pane_number_lt : ∀ id n, ws.publicPaneNumbers.lookup id = some n → n < ws.nextPublicPaneNumber

/-- `assert_invariants_for_test`. -/
structure Workspace.AssertInvariants (ws : Workspace) : Prop extends ws.Consistent where
  tabs_ne_nil : ws.tabs ≠ []

end Workspaces

end Ork3
