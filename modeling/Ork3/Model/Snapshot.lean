import Ork3.Model.TerminalOperations
import Ork3.Model.Workspace

/-!
# Session snapshots

The snapshots of `persist/snapshot.rs` and how they are captured from the live workspaces. A pane is
saved under its raw id, with what its terminal knows beside the directory and the screen.
-/

namespace Ork3.Persist

open Ork3.Library Ork3.Layout Ork3.Terminal Ork3.Workspaces

inductive DirectionSnapshot
  | horizontal | vertical
  deriving DecidableEq, Repr

inductive LayoutSnapshot
  | pane (id : UInt32)
  | split (direction : DirectionSnapshot) (ratio : ℚ) (first second : LayoutSnapshot)
  deriving DecidableEq

structure PaneAgentSessionSnapshot where
  source : String
  agent : String
  kind : AgentSessionRefKind
  value : String
  deriving DecidableEq

structure PaneSnapshot where
  label : Option String
  agentName : Option String
  agentSession : Option PaneAgentSessionSnapshot
  launchArgv : Option (List String)
  deriving DecidableEq

structure TabSnapshot where
  customName : Option String
  layout : LayoutSnapshot
  panes : Table UInt32 PaneSnapshot
  zoomed : Bool
  focused : Option UInt32
  rootPane : Option UInt32

structure WorkspaceSnapshot where
  id : Option String
  customName : Option String
  worktreeSpace : Option WorktreeSpaceMembership
  publicPaneNumbers : Table UInt32 Nat
  nextPublicPaneNumber : Nat
  publicTabNumbers : List Nat
  nextPublicTabNumber : Nat
  tabs : List TabSnapshot
  activeTab : Nat

structure SessionSnapshot where
  workspaces : List WorkspaceSnapshot
  active : Option Nat
  selected : Nat

/-- A terminal with the label its user gave it. -/
structure LabelledTerminal where
  manualLabel : Option String
  state : TerminalState

/-- The ids `collect_layout_snapshot_pane_ids` pushes, in order. -/
def LayoutSnapshot.paneIds : LayoutSnapshot → List UInt32
  | .pane id => [id]
  | .split _ _ first second => first.paneIds ++ second.paneIds

def captureDirection : Direction → DirectionSnapshot
  | .horizontal => .horizontal
  | .vertical => .vertical

def captureNode : Node → LayoutSnapshot
  | .pane id => .pane id.raw
  | .split direction ratio first second =>
    .split (captureDirection direction) ratio (captureNode first) (captureNode second)

def captureAgentSession (s : TerminalState) : Option PaneAgentSessionSnapshot :=
  (s.hookAuthority.bind fun authority => authority.sessionRef.map fun sessionRef =>
    ⟨authority.source, authority.agentLabel, sessionRef.kind, sessionRef.value⟩).or
  (s.persistedAgentSession.map fun session =>
    ⟨session.source, session.agent, session.sessionRef.kind, session.sessionRef.value⟩)

section
variable (terminals : Table TerminalId LabelledTerminal)

def capturePane (pane : PaneState) : PaneSnapshot :=
  let terminal := terminals.lookup pane.attachedTerminalId
  { label := terminal.bind (·.manualLabel)
    agentName := terminal.bind (·.state.agentName)
    agentSession := terminal.bind fun t => captureAgentSession t.state
    launchArgv := terminal.bind (·.state.launchArgv) }

def captureTab (tab : Tab) : TabSnapshot where
  customName := tab.customName
  layout := captureNode tab.layout.root
  panes := Table.collect (tab.panes.entries.map fun e => (e.1.raw, capturePane terminals e.2))
  zoomed := tab.zoomed
  focused := some tab.layout.focus.raw
  rootPane := some tab.rootPane.raw

def captureWorkspace (ws : Workspace) : WorkspaceSnapshot where
  id := some ws.id
  customName := ws.customName
  worktreeSpace := ws.worktreeSpace
  publicPaneNumbers := Table.collect (ws.publicPaneNumbers.entries.map fun e => (e.1.raw, e.2))
  nextPublicPaneNumber := ws.nextPublicPaneNumber
  publicTabNumbers := ws.tabs.map Tab.number
  nextPublicTabNumber := ws.nextPublicTabNumber
  tabs := ws.tabs.map (captureTab terminals)
  activeTab := ws.activeTab

def capture (workspaces : List Workspace) (active : Option Nat) (selected : Nat) :
    SessionSnapshot where
  workspaces := workspaces.map (captureWorkspace terminals)
  active := active
  selected := selected

end

end Ork3.Persist
