import Ork3.Model.PublicIds
import Ork3.Model.Snapshot

/-!
# Restoring a session from its snapshot

`persist/restore.rs`. `PaneId::alloc` counts in 32 bits; what the terminals' allocator, a spawn and
the file system answer is part of the context. A pane's runtime is left out: a pane is live when its
terminal is.
-/

namespace Ork3.Persist

open Ork3.Library Ork3.Layout Ork3.Terminal Ork3.Workspaces

structure RestoreContext where
  resumeAgentsOnRestore : Bool
  /-- Whether the runtime of a pane starts, spawned or taken over from an imported one. -/
  spawns : PaneId → Bool
  /-- The id the `n`-th call of `TerminalId::alloc` returns. -/
  allocTerminal : Nat → TerminalId
  worktreeIsCurrent : WorktreeSpaceMembership → Bool
  /-- The id the `n`-th call of `generate_workspace_id` returns. -/
  generateWorkspaceId : Nat → String
  now : PaneId → Instant
  suppressedAt : PaneId → Instant

/-- What a restore changes outside the workspaces it builds. -/
structure RestoreState where
  nextPaneId : UInt32
  nextTerminal : Nat
  nextWorkspace : Nat
  resumedAgentSessions : Finset String
  importedPanes : Finset UInt32
  failedImports : Nat

/-! ### Layout trees -/

def restoreDirection : DirectionSnapshot → Direction
  | .horizontal => .horizontal
  | .vertical => .vertical

/-- The tree with fresh ids, the next id, and the fresh id of every saved one. -/
def remapInner : LayoutSnapshot → UInt32 → Table UInt32 PaneId → Node × UInt32 × Table UInt32 PaneId
  | .pane oldId, next, idMap => (.pane ⟨next⟩, next + 1, idMap.insert oldId ⟨next⟩)
  | .split direction ratio first second, next, idMap =>
    let (firstNode, next, idMap) := remapInner first next idMap
    let (secondNode, next, idMap) := remapInner second next idMap
    (.split (restoreDirection direction) ratio firstNode secondNode, next, idMap)

def restoreNodeRemapped (snap : LayoutSnapshot) (next : UInt32) :
    Node × UInt32 × Table UInt32 PaneId :=
  remapInner snap next ∅

def reverseIdMap (idMap : Table UInt32 PaneId) : Table PaneId UInt32 :=
  Table.collect (idMap.entries.map fun e => (e.2, e.1))

def pruneRestoredNode (surviving : PaneId → Bool) : Node → Option Node
  | .pane id => if surviving id then some (.pane id) else none
  | .split direction ratio first second =>
    match pruneRestoredNode surviving first, pruneRestoredNode surviving second with
    | some first, some second => some (.split direction ratio first second)
    | some remaining, none => some remaining
    | none, some remaining => some remaining
    | none, none => none

def resolveRestoredPane (savedOldId : Option UInt32) (idMap : Table UInt32 PaneId)
    (surviving : PaneId → Bool) (paneIds : List PaneId) : Option PaneId :=
  ((savedOldId.bind fun oldId => idMap.lookup oldId).filter surviving).or paneIds.head?

/-! ### Panes -/

def persistedAgentSessionFromSnapshot (session : PaneAgentSessionSnapshot) :
    Option PersistedAgentSession :=
  sessionRefFromSnapshot session.source session.agent session.kind session.value

def restorePlanForSnapshot (session : PaneAgentSessionSnapshot) (resumeAgentsOnRestore : Bool) :
    Option AgentResumePlan := do
  if !resumeAgentsOnRestore then none
  let persisted ← persistedAgentSessionFromSnapshot session
  plan session.source session.agent persisted.sessionRef

structure PaneRestoreStartup where
  restorePlan : Option AgentResumePlan
  duplicateAgentSession : Bool
  reservedAgentSession : Option String

/-- Reserves the session before the spawn, so that later panes of the same restore cannot launch it
again. -/
def paneRestoreStartup (session : Option PaneAgentSessionSnapshot) (enabled : Bool)
    (resumedSessions : Finset String) : PaneRestoreStartup × Finset String :=
  match session.bind fun session => restorePlanForSnapshot session enabled with
  | none => (⟨none, false, none⟩, resumedSessions)
  | some plan =>
    if plan.dedupeKey ∈ resumedSessions then (⟨none, true, none⟩, resumedSessions)
    else (⟨some plan, false, some plan.dedupeKey⟩, insert plan.dedupeKey resumedSessions)

attribute [grind =] paneRestoreStartup

def restoredTerminalAgentSession (session : Option PaneAgentSessionSnapshot)
    (duplicateAgentSession : Bool) : Option PersistedAgentSession :=
  if duplicateAgentSession then none else session.bind persistedAgentSessionFromSnapshot

structure RestoredTerminal where
  id : TerminalId
  terminal : LabelledTerminal

/-- `set_manual_label` and `set_agent_name`. -/
def trimmedName (name : String) : Option String :=
  let name := String.ofList (trim name.toList)
  if name.isEmpty then none else some name

/-- What follows the construction of a terminal that is restored. -/
def restoredTerminal (ctx : RestoreContext) (id : PaneId) (startup : PaneRestoreStartup)
    (saved : Option PaneSnapshot) (s : TerminalState) : LabelledTerminal :=
  let s := match saved.bind (·.agentName) with
    | none => s
    | some agentName => { s with agentName := trimmedName agentName }
  let s := match startup.restorePlan.bind fun plan => parseAgentLabel plan.agent with
    | none => s
    | some agent => (s.setDetectedStateWithScreenSignalsAt (some agent) .idle false false false false
        (ctx.now id) (ctx.suppressedAt id)).1
  let s := match restoredTerminalAgentSession (saved.bind (·.agentSession))
      startup.duplicateAgentSession with
    | none => s
    | some session => s.setPersistedAgentSession session
  ⟨(saved.bind (·.label)).bind trimmedName, s⟩

/-- How the restore of a pane begins: with an agent to resume later, or with a runtime. -/
inductive PaneStart
  | resumeLater (plan : AgentResumePlan)
  | started (wasImported : Bool)
  | failed

def startPane (ctx : RestoreContext) (id : PaneId) (oldId : Option UInt32)
    (session : Option PaneAgentSessionSnapshot) (state : RestoreState) :
    PaneStart × PaneRestoreStartup × RestoreState :=
  let (startup, resumed) :=
    paneRestoreStartup session ctx.resumeAgentsOnRestore state.resumedAgentSessions
  let wasImported := oldId.any fun oldId => oldId ∈ state.importedPanes
  let state :=
    { state with
      resumedAgentSessions := resumed
      importedPanes := oldId.elim state.importedPanes state.importedPanes.erase }
  match if wasImported then none else startup.restorePlan with
  | some plan => (.resumeLater plan, startup, state)
  | none =>
    if ctx.spawns id then (.started wasImported, startup, state)
    else
      let state :=
        { state with
          resumedAgentSessions := startup.reservedAgentSession.elim state.resumedAgentSessions
            state.resumedAgentSessions.erase }
      (.failed, startup,
        if wasImported then { state with failedImports := state.failedImports + 1 } else state)

structure PanesRestore where
  state : RestoreState
  panes : Table PaneId PaneState
  terminals : List RestoredTerminal

/-- The body of the loop over the panes of a tab. -/
def restorePane (ctx : RestoreContext) (snap : TabSnapshot) (reverse : Table PaneId UInt32)
    (r : PanesRestore) (id : PaneId) : PanesRestore :=
  let oldId := reverse.lookup id
  let saved := oldId.bind fun oldId => snap.panes.lookup oldId
  let (start, startup, state) :=
    startPane ctx id oldId (saved.bind (·.agentSession)) r.state
  let live (s : TerminalState) : PanesRestore :=
    let terminalId := ctx.allocTerminal state.nextTerminal
    { state := { state with nextTerminal := state.nextTerminal + 1 }
      panes := r.panes.insert id (.new terminalId)
      terminals := r.terminals ++ [⟨terminalId, restoredTerminal ctx id startup saved s⟩] }
  match start with
  | .resumeLater plan => live { TerminalState.new with pendingAgentResumePlan := some plan }
  | .started wasImported =>
    match if wasImported then saved.bind (·.launchArgv) else none with
    | some argv =>
      live { TerminalState.new with launchArgv := some argv, respawnShellOnExit := true }
    | none => live .new
  | .failed => { r with state := state }

/-! ### Tabs -/

structure RestoredTab where
  tab : Tab
  terminals : List RestoredTerminal
  reverseIdMap : Table PaneId UInt32

def restoreTab (ctx : RestoreContext) (snap : TabSnapshot) (number : Nat) (state : RestoreState) :
    Option RestoredTab × RestoreState :=
  let (node, next, idMap) := restoreNodeRemapped snap.layout state.nextPaneId
  let reverse := reverseIdMap idMap
  let r := node.collectIds.foldl (restorePane ctx snap reverse)
    ⟨{ state with nextPaneId := next }, ∅, []⟩
  if r.panes.keys.isEmpty then (none, r.state)
  else
    let surviving := fun id => decide (id ∈ r.panes)
    match pruneRestoredNode surviving node with
    | none => (none, r.state)
    | some node =>
      let paneIds := node.collectIds
      match resolveRestoredPane snap.focused idMap surviving paneIds,
          resolveRestoredPane snap.rootPane idMap surviving paneIds with
      | some focus, some rootPane =>
        (some ⟨{ customName := snap.customName
                 number := number
                 rootPane := rootPane
                 layout := ⟨node, focus⟩
                 panes := r.panes
                 zoomed := snap.zoomed }, r.terminals, reverse⟩, r.state)
      | _, _ => (none, r.state)

/-! ### Workspaces -/

/-- `checked_add(1)` of a `usize`. -/
def checkedSucc (n : Nat) : Option Nat := if n + 1 < usizeBound then some (n + 1) else none

/-- `+ 1` of a `usize`, which wraps in a release build and ends one with overflow checks. -/
def wrappingSucc (n : Nat) : Nat := (n + 1) % usizeBound

/-- `max + 1` of the saved numbers, or `1`, and never below the saved counter. -/
def nextPublicNumber (saved : List Nat) (next : Nat) : Nat :=
  max ((saved.max?.bind checkedSucc).getD 1) next

/-- Numbers for the panes that were saved without one. -/
def migratedPublicPaneNumbersByOldRaw (snap : WorkspaceSnapshot) (next : Nat) :
    Table UInt32 Nat × Nat :=
  (snap.tabs.flatMap fun tab => tab.layout.paneIds).foldl
    (fun (numbers, next) oldRaw =>
      if oldRaw ∈ numbers then (numbers, next)
      else (numbers.insert oldRaw next, wrappingSucc next))
    (snap.publicPaneNumbers, next)

structure PublicNumbers where
  panes : Table PaneId Nat
  nextPane : Nat

/-- The body of the loop over the panes of a restored tab. -/
def numberPane (byOldRaw : Table UInt32 Nat) (reverse : Table PaneId UInt32) (r : PublicNumbers)
    (id : PaneId) : PublicNumbers :=
  let (number, next) :=
    match byOldRaw.lookup ((reverse.lookup id).getD id.raw) with
    | some number => (number, r.nextPane)
    | none => (r.nextPane, wrappingSucc r.nextPane)
  ⟨r.panes.insert id number, max next (wrappingSucc number)⟩

structure WorkspaceRestore where
  state : RestoreState
  tabs : List Tab
  terminals : List RestoredTerminal
  numbers : PublicNumbers
  nextTab : Nat

def savedTabNumber (snap : WorkspaceSnapshot) (idx : Nat) : Nat :=
  (snap.publicTabNumbers[idx]?).getD (idx + 1)

/-- The body of the loop over the tabs of a workspace. -/
def restoreNextTab (ctx : RestoreContext) (snap : WorkspaceSnapshot)
    (byOldRaw : Table UInt32 Nat) (r : WorkspaceRestore) (entry : TabSnapshot × Nat) :
    WorkspaceRestore :=
  match restoreTab ctx entry.1 (savedTabNumber snap entry.2) r.state with
  | (none, state) => { r with state := state }
  | (some restored, state) =>
    let tab := match snap.publicTabNumbers[entry.2]? with
      | some number => { restored.tab with number := number }
      | none => restored.tab
    { state := state
      tabs := r.tabs ++ [tab]
      terminals := r.terminals ++ restored.terminals
      numbers := tab.layout.paneIds.foldl (numberPane byOldRaw restored.reverseIdMap) r.numbers
      nextTab := max r.nextTab (wrappingSucc tab.number) }

structure RestoredWorkspace where
  workspace : Workspace
  terminals : List RestoredTerminal

def restoreWorkspace (ctx : RestoreContext) (snap : WorkspaceSnapshot) (state : RestoreState) :
    Option RestoredWorkspace × RestoreState :=
  let (byOldRaw, nextPane) := migratedPublicPaneNumbersByOldRaw snap
    (nextPublicNumber snap.publicPaneNumbers.values snap.nextPublicPaneNumber)
  let workspaceId := snap.id.getD (ctx.generateWorkspaceId state.nextWorkspace)
  let state :=
    { state with
      nextWorkspace := if snap.id.isSome then state.nextWorkspace else state.nextWorkspace + 1 }
  let r := snap.tabs.zipIdx.foldl (restoreNextTab ctx snap byOldRaw)
    ⟨state, [], [], ⟨∅, nextPane⟩,
      nextPublicNumber snap.publicTabNumbers snap.nextPublicTabNumber⟩
  if r.tabs.isEmpty then (none, r.state)
  else
    (some ⟨{ id := workspaceId
             customName := snap.customName
             worktreeSpace := snap.worktreeSpace.filter ctx.worktreeIsCurrent
             publicPaneNumbers := r.numbers.panes
             nextPublicPaneNumber := r.numbers.nextPane
             nextPublicTabNumber := r.nextTab
             tabs := r.tabs
             activeTab := min snap.activeTab (r.tabs.length - 1) }, r.terminals⟩, r.state)

/-! ### Sessions -/

structure SessionRestore where
  state : RestoreState
  workspaces : List Workspace
  terminals : Table TerminalId LabelledTerminal

/-- The body of the loop over the workspaces of a session. -/
def restoreNextWorkspace (ctx : RestoreContext) (r : SessionRestore) (snap : WorkspaceSnapshot) :
    SessionRestore :=
  match restoreWorkspace ctx snap r.state with
  | (none, state) => { r with state := state }
  | (some restored, state) =>
    { state := state
      workspaces := r.workspaces ++ [restored.workspace]
      terminals := restored.terminals.foldl (fun t e => t.insert e.id e.terminal) r.terminals }

/-- `restore_with_imports_and_failures`: the ids counted so far and the imported panes come in with
the state, the number of failed imports goes out with it. -/
def restoreWithImports (ctx : RestoreContext) (snapshot : SessionSnapshot)
    (nextPaneId : UInt32) (nextTerminal nextWorkspace : Nat) (importedPanes : Finset UInt32) :
    SessionRestore :=
  snapshot.workspaces.foldl (restoreNextWorkspace ctx)
    ⟨⟨nextPaneId, nextTerminal, nextWorkspace, ∅, importedPanes, 0⟩, [], ∅⟩

/-! ### Handoffs -/

/-- The saved and the restored panes are walked side by side. -/
def handoffPaneAliases (snapshot : SessionSnapshot) (workspaces : List Workspace) :
    Table UInt32 PaneId :=
  let pairs := (snapshot.workspaces.zip workspaces).flatMap fun ws =>
    (ws.1.tabs.zip ws.2.tabs).flatMap fun tab =>
      tab.1.layout.paneIds.zip tab.2.layout.paneIds
  Table.collect (pairs.filter fun e => e.1 ≠ e.2.raw)

end Ork3.Persist
