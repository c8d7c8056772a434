import Ork3.Model.AgentIdentity
import Ork3.Model.PublicIds

/-!
# Applying and exporting layouts

`app/api/layouts.rs`, once the workspace of the request is found. What the allocators and the spawns
give, one after the other, is a sequence; a working directory is what the runtime of a pane reports.
`none` is a panic.
-/

namespace Ork3.Workspaces

open Ork3.Library Ork3.Layout

def maxLayoutPanes : Nat := 24
def maxLayoutDepth : Nat := 16

inductive SplitDirection where
  | right
  | down
deriving DecidableEq, Repr

def SplitDirection.toDirection : SplitDirection → Direction
  | .right => .horizontal
  | .down => .vertical

def SplitDirection.ofDirection : Direction → SplitDirection
  | .horizontal => .right
  | .vertical => .down

structure LayoutPane where
  paneId : Option String
  label : Option String
  cwd : Option String
  command : Option (List String)
  env : List (String × String)
deriving DecidableEq

inductive LayoutNode where
  | pane (pane : LayoutPane)
  | split (direction : SplitDirection) (ratio : F32) (first second : LayoutNode)
deriving DecidableEq

def firstLayoutLeaf : LayoutNode → LayoutPane
  | .pane pane => pane
  | .split _ _ first _ => firstLayoutLeaf first

/-! ### Validation -/

def normalizeLaunchEnv (env : List (String × String)) :
    Except (String × String) (List (String × String)) := do
  for (key, value) in env do
    if key.isEmpty then
      throw ("invalid_env", "env key must not be empty")
    if key.toList.contains '=' then
      throw ("invalid_env", "env key " ++ key ++ " must not contain '='")
    if key.toList.contains '\x00' then
      throw ("invalid_env", "env key must not contain NUL bytes")
    if value.toList.contains '\x00' then
      throw ("invalid_env", "env value for " ++ key ++ " must not contain NUL bytes")
  return env.mergeSort fun left right => left.1 ≤ right.1

def layoutCommand (pane : LayoutPane) : Except String (Option (List String)) :=
  match pane.command with
  | some [] => .error "pane command must not be empty"
  | some command => .ok (some command)
  | none => .ok none

structure LayoutTreeStats where
  panes : Nat
  maxDepth : Nat

def layoutDepthError (depth : Nat) : String :=
  "layout depth is " ++ toString depth ++ "; maximum is " ++ toString maxLayoutDepth

def validateLayoutNode (stats : LayoutTreeStats) (depth : Nat) :
    LayoutNode → Except String LayoutTreeStats
  | .pane pane =>
    let stats := { stats with maxDepth := max stats.maxDepth depth }
    if depth > maxLayoutDepth then .error (layoutDepthError depth)
    else
      let stats := { stats with panes := stats.panes + 1 }
      if stats.panes > maxLayoutPanes then
        .error ("layout has more than " ++ toString maxLayoutPanes ++ " panes")
      else
        match layoutCommand pane with
        | .error message => .error message
        | .ok _ =>
          match normalizeLaunchEnv pane.env with
          | .error (_, message) => .error message
          | .ok _ => .ok stats
  | .split _ ratio first second =>
    let stats := { stats with maxDepth := max stats.maxDepth depth }
    if depth > maxLayoutDepth then .error (layoutDepthError depth)
    else if !ratio.isFinite then .error "split ratio must be finite"
    else
      match validateLayoutNode stats (depth + 1) first with
      | .error message => .error message
      | .ok stats => validateLayoutNode stats (depth + 1) second

def validateLayoutTree (root : LayoutNode) : Except String Unit :=
  match validateLayoutNode ⟨0, 0⟩ 1 root with
  | .error message => .error message
  | .ok stats =>
    if stats.panes > maxLayoutPanes then
      .error ("layout has " ++ toString stats.panes ++ " panes; maximum is " ++
        toString maxLayoutPanes)
    else if stats.maxDepth > maxLayoutDepth then .error (layoutDepthError stats.maxDepth)
    else .ok ()

/-! ### Terminals -/

/-- What a layout reads and writes of a `TerminalState`. -/
structure LayoutTerminal where
  manualLabel : Option String
  launchArgv : Option (List String)
deriving DecidableEq

/-- A label without the blanks around it, where that leaves something. -/
def trimmedLabel (label : String) : Option String :=
  let trimmed := String.ofList (Terminal.trim label.toList)
  if trimmed.isEmpty then none else some trimmed

def LayoutTerminal.setManualLabel (terminal : LayoutTerminal) (label : String) : LayoutTerminal :=
  { terminal with manualLabel := trimmedLabel label }

def Tab.terminalId (tab : Tab) (paneId : PaneId) : Option TerminalId :=
  (tab.panes.lookup paneId).map PaneState.attachedTerminalId

def Workspace.terminalId (ws : Workspace) (paneId : PaneId) : Option TerminalId :=
  ws.tabs.findSome? fun tab => tab.terminalId paneId

/-- The workspace of the request, the terminals, and the number of panes allocated so far. -/
structure LayoutState where
  ws : Workspace
  terminals : Table TerminalId LayoutTerminal
  spawned : Nat

/-- The panes that are allocated one after the other, and what spawning a terminal for each gives. -/
abbrev Spawns := Nat → PaneId × Except String TerminalId

namespace LayoutState

def applyLayoutPaneLabel (st : LayoutState) (paneId : PaneId) (pane : LayoutPane) : LayoutState :=
  match pane.label.bind trimmedLabel with
  | none => st
  | some label =>
    match st.ws.terminalId paneId with
    | none => st
    | some terminalId =>
      { st with
        terminals := Table.modify terminalId (fun terminal => terminal.setManualLabel label)
          st.terminals }

/-! ### Building -/

section
variable (spawns : Spawns)

def layoutSplitPane (st : LayoutState) (targetPaneId : PaneId) (direction : SplitDirection)
    (ratio : F32) (pane : LayoutPane) : Option (LayoutState × Except String PaneId) :=
  match normalizeLaunchEnv pane.env with
  | .error (_, message) => some (st, .error message)
  | .ok _ =>
    match layoutCommand pane with
    | .error message => some (st, .error message)
    | .ok command => do
      let (newId, outcome) := spawns st.spawned
      let (ws, result) ← st.ws.splitPaneWithRuntime targetPaneId newId direction.toDirection
        (some ratio) false outcome.toOption
      match result with
      | none => some (st, .error "pane not found")
      | some _ =>
        match outcome with
        | .error message => some ({ st with ws := ws, spawned := st.spawned + 1 }, .error message)
        | .ok terminalId =>
          let st : LayoutState :=
            { ws := ws
              terminals := st.terminals.insert terminalId ⟨none, command⟩
              spawned := st.spawned + 1 }
          some (st.applyLayoutPaneLabel newId pane, .ok newId)

def applyLayoutNodeToPane : LayoutNode → LayoutState → PaneId →
    Option (LayoutState × Except String Unit)
  | .pane pane, st, paneId => some (st.applyLayoutPaneLabel paneId pane, .ok ())
  | .split direction ratio first second, st, paneId => do
    match ← st.layoutSplitPane spawns paneId direction ratio (firstLayoutLeaf second) with
    | (st, .error message) => some (st, .error message)
    | (st, .ok newPane) =>
      match ← applyLayoutNodeToPane first st paneId with
      | (st, .error message) => some (st, .error message)
      | (st, .ok ()) => applyLayoutNodeToPane second st newPane

end

def terminalIdsForTab (st : LayoutState) (tabIdx : Nat) : List TerminalId :=
  (st.ws.tabs[tabIdx]?.map fun tab => terminalIds [tab]).getD []

/-- The body of the loop of `remove_unattached_terminal_ids`. -/
def removeUnattachedTerminalId (st : LayoutState) (terminalId : TerminalId) : LayoutState :=
  if terminalId ∈ terminalIds st.ws.tabs then st
  else { st with terminals := st.terminals.erase terminalId }

def closeLayoutTab (st : LayoutState) (tabIdx : Nat) : LayoutState :=
  let terminals := st.terminalIdsForTab tabIdx
  let (ws, closed) := st.ws.closeTab tabIdx
  if closed then terminals.foldl removeUnattachedTerminalId { st with ws := ws }
  else { st with ws := ws }

def findRoot (st : LayoutState) (rootPane : PaneId) : Option Nat :=
  st.ws.tabs.findIdx? fun tab => tab.rootPane = rootPane

def rollbackLayoutTab (st : LayoutState) (rootPane : PaneId) : LayoutState :=
  match st.findRoot rootPane with
  | none => st
  | some tabIdx => st.closeLayoutTab tabIdx

/-! ### Exporting -/

structure LayoutDescription where
  workspaceId : String
  tabId : String
  zoomed : Bool
  focusedPaneId : String
  root : LayoutNode

def publicPaneId (st : LayoutState) (paneId : PaneId) : Option String :=
  (st.ws.publicPaneNumber paneId).map (publicPaneIdForNumber st.ws.id)

section
variable (cwd : TerminalId → Option String)

def layoutPaneDescription (st : LayoutState) (tab : Tab) (paneId : PaneId) : Option LayoutPane := do
  let terminalId ← tab.terminalId paneId
  let terminal := st.terminals.lookup terminalId
  some {
    paneId := some (← st.publicPaneId paneId)
    label := terminal.bind LayoutTerminal.manualLabel
    cwd := cwd terminalId
    command := terminal.bind LayoutTerminal.launchArgv
    env := [] }

def layoutNodeDescription (st : LayoutState) (tab : Tab) : Node → Option LayoutNode
  | .pane paneId => do some (.pane (← st.layoutPaneDescription cwd tab paneId))
  | .split direction ratio first second => do
    some (.split (.ofDirection direction) (.finite ratio) (← st.layoutNodeDescription tab first)
      (← st.layoutNodeDescription tab second))

def layoutDescription (st : LayoutState) (tabIdx : Nat) : Option LayoutDescription := do
  let tab ← st.ws.tabs[tabIdx]?
  some {
    workspaceId := st.ws.id
    tabId := publicTabIdForNumber st.ws.id tab.number
    zoomed := tab.zoomed
    focusedPaneId := ← st.publicPaneId tab.layout.focus
    root := ← st.layoutNodeDescription cwd tab tab.layout.root }

/-! ### The request -/

structure LayoutApplyParams where
  tabLabel : Option String
  focus : Bool
  root : LayoutNode

/-- The tab to replace, and whether it was the active tab of the active workspace. -/
structure ReplaceTarget where
  tabIdx : Nat
  wasActive : Bool

/-- What follows once the tree stands. -/
def finishLayoutApply (st : LayoutState) (params : LayoutApplyParams)
    (replaceTarget : Option ReplaceTarget) (newRootPane : PaneId) :
    LayoutState × Except (String × String) LayoutDescription :=
  let st :=
    match replaceTarget with
    | none => st
    | some target => st.closeLayoutTab target.tabIdx
  match st.findRoot newRootPane with
  | none => (st, .error ("layout_apply_failed", "new layout tab disappeared"))
  | some newTabIdx =>
    let st :=
      if params.focus || (replaceTarget.any ReplaceTarget.wasActive) then
        { st with ws := st.ws.switchTab newTabIdx }
      else st
    match st.layoutDescription cwd newTabIdx with
    | none => (st, .error ("layout_apply_failed", "new layout unavailable"))
    | some layout => (st, .ok layout)

/-- `handle_layout_apply` for this workspace. -/
def handleLayoutApply (spawns : Spawns) (st : LayoutState) (params : LayoutApplyParams)
    (replaceTarget : Option ReplaceTarget) :
    Option (LayoutState × Except (String × String) LayoutDescription) :=
  match validateLayoutTree params.root with
  | .error message => some (st, .error ("invalid_layout", message))
  | .ok () =>
    let replacementLabel := params.tabLabel.or
      (replaceTarget.bind fun target => st.ws.tabs[target.tabIdx]?.bind Tab.customName)
    let rootLeaf := firstLayoutLeaf params.root
    match normalizeLaunchEnv rootLeaf.env with
    | .error (code, message) => some (st, .error (code, message))
    | .ok _ =>
      match layoutCommand rootLeaf with
      | .error message => some (st, .error ("invalid_layout", message))
      | .ok command => do
        let (rootId, outcome) := spawns st.spawned
        let (ws, created) ← st.ws.createTab rootId outcome.toOption
        match created, outcome with
        | some newTabIdx, .ok terminalId =>
          let ws := { ws with tabs := ws.tabs.modify newTabIdx fun tab =>
            { tab with customName := replacementLabel.or tab.customName } }
          let st : LayoutState :=
            { ws := ws
              terminals := st.terminals.insert terminalId ⟨none, command⟩
              spawned := st.spawned + 1 }
          let st := st.applyLayoutPaneLabel rootId rootLeaf
          match ← applyLayoutNodeToPane spawns params.root st rootId with
          | (st, .error message) =>
            some (st.rollbackLayoutTab rootId, .error ("layout_apply_failed", message))
          | (st, .ok ()) => some (st.finishLayoutApply cwd params replaceTarget rootId)
        | _, .error message =>
          some ({ st with ws := ws, spawned := st.spawned + 1 },
            .error ("layout_apply_failed", message))
        | none, .ok _ => none

end

end LayoutState

end Ork3.Workspaces
