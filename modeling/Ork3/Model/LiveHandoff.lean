import Ork3.Library.Run
import Ork3.Model.Restore

/-!
# Handing the panes over to another server

`server/handoff.rs`, with `perform_live_handoff`, its rollback and `run_handoff_import_server` of
`server/headless.rs`. A step is one operation of the source server or of the import server; it may
fail wherever the Rust code returns or logs an error, timeouts and unexpected lines included.
`read_line_unbuffered` reads a whole message or fails. A message that is written is on its way even
if its reader is gone.
-/

namespace Ork3.Server

open Ork3.Library Ork3.Persist Ork3.Workspaces

def handoffVersion : Nat := 1

def maxFdsPerHandoff : Nat := 64

structure HandoffManifest where
  version : Nat
  sourceVersion : String
  sourceProtocol : Nat
  expectedVersion : Option String
  expectedProtocol : Option Nat
  snapshot : SessionSnapshot
  /-- The ids of the panes whose runtimes follow. -/
  panes : List UInt32

/-- What the two servers write to the handoff stream. A file descriptor is named by the terminal
whose PTY it refers to. -/
inductive HandoffMessage
  | token (token : String)
  | manifest (manifest : HandoffManifest)
  | validated
  | fds (fds : List TerminalId)
  | restored
  | ready
  | committed
  | owned

/-- The program a server runs. -/
structure ServerBuild where
  version : String
  protocol : Nat

/-! ### The two servers -/

/-- The state of the application a handoff starts from. -/
structure RunningApp where
  workspaces : List Workspace
  terminals : Table TerminalId LabelledTerminal
  active : Option Nat
  selected : Nat

/-- The operation of `perform_live_handoff` that comes next. -/
inductive SourcePhase
  | idle
  | pausing (keys : List TerminalId)
  | spawning
  | duplicating (entries : List (TerminalId × UInt32))
  | accepting
  | authenticating
  | sendingManifest
  | validating
  | sendingFds
  | restoring
  | unlinkingApi
  | unlinkingClient
  | readying
  | committing
  | releasing (drained : List TerminalId)
  | acknowledging
  | done (acknowledged : Bool)

/-- What follows an operation that failed. `resuming` and `failed` say whether the error also
reports that the public sockets could not be restored. -/
inductive Recovery
  | none
  | killing
  | awaitingSockets
  | bindingApi
  | bindingClient
  | resuming (paused : List TerminalId) (restoreFailed : Bool)
  | failed (restoreFailed : Bool)
  deriving DecidableEq

structure SourceServer where
  build : ServerBuild
  app : RunningApp
  alive : Bool
  phase : SourcePhase
  recovery : Recovery
  /-- The terminals of the runtime registry. -/
  runtimes : List TerminalId
  /-- The terminals whose actor has confirmed that it stopped reading. -/
  quiesced : List TerminalId
  paneByTerminal : Table TerminalId UInt32
  pausedTerminalIds : List TerminalId
  handoffEntries : List (TerminalId × UInt32)
  manifest : HandoffManifest
  fds : List TerminalId
  handoffInProgress : Bool

/-- The operation of `run_handoff_import_server` that comes next. -/
inductive ImportPhase
  | absent
  | connecting
  | authenticating
  | receivingManifest
  | validating
  | receivingFds
  | building
  | reportingRestored
  | awaitingSockets
  | bindingApi
  | bindingClient
  | reportingReady
  | awaitingCommit
  | assuming
  | unpausing (remaining : List TerminalId)
  | reportingOwned
  | serving (reported : Bool)

/-- What the import server is started with, and what its surroundings answer during the restore. -/
structure ImportStart where
  build : ServerBuild
  context : RestoreContext
  nextPaneId : UInt32
  nextTerminal : Nat
  nextWorkspace : Nat

structure ImportServer where
  start : ImportStart
  alive : Bool
  phase : ImportPhase
  manifest : Option HandoffManifest
  fds : List TerminalId
  /-- The PTY of each imported runtime, by the pane's id in the source server. -/
  imports : Table UInt32 TerminalId
  session : Option SessionRestore
  /-- The terminals whose actor was told to read. -/
  reading : List TerminalId
  /-- Whether dropping a runtime ends its processes. -/
  ownsProcesses : Bool

inductive Party
  | source
  | importer
  deriving DecidableEq

structure Handoff where
  source : SourceServer
  importer : ImportServer
  /-- The import servers of earlier handoffs. -/
  leftover : List ImportServer
  token : String
  toSource : List HandoffMessage
  toImporter : List HandoffMessage
  /-- Whether the handoff socket accepts connections, and whether the import server has one. -/
  listening : Bool
  connected : Bool
  /-- The server that answers on each public socket. A file that nobody answers on counts as no
  socket: both servers remove it before they bind. -/
  apiSocket : Option Party
  clientSocket : Option Party
  /-- The terminals whose processes were ended. -/
  terminated : List TerminalId

/-! ### What the source server sends -/

/-- The pane of each attached terminal, the last one of a terminal that has several. -/
def paneByTerminal (workspaces : List Workspace) : Table TerminalId UInt32 :=
  Table.collect (workspaces.flatMap fun ws => ws.tabs.flatMap fun tab =>
    tab.panes.entries.map fun e => (e.2.attachedTerminalId, e.1.raw))

/-- The loop that fills `handoff_entries`: runtimes without a pane are passed over. -/
def handoffEntries (runtimes : List TerminalId) (panes : Table TerminalId UInt32) :
    List (TerminalId × UInt32) :=
  runtimes.filterMap fun terminalId => (panes.lookup terminalId).map (terminalId, ·)

def manifestFor (build : ServerBuild) (snapshot : SessionSnapshot) (panes : List UInt32)
    (expectedProtocol : Option Nat) (expectedVersion : Option String) : HandoffManifest where
  version := handoffVersion
  sourceVersion := build.version
  sourceProtocol := build.protocol
  expectedVersion := expectedVersion
  expectedProtocol := expectedProtocol
  snapshot := snapshot
  panes := panes

/-- The checks of `receive`. -/
def ServerBuild.accepts (build : ServerBuild) (manifest : HandoffManifest) : Bool :=
  manifest.version == handoffVersion &&
    manifest.expectedProtocol.all (· == build.protocol) &&
    manifest.expectedVersion.all (· == build.version)

/-- `restore_handoff`: every import must come up, and none may be left over. -/
def restoreHandoff (start : ImportStart) (snapshot : SessionSnapshot)
    (imports : Table UInt32 TerminalId) : Option SessionRestore :=
  let restored := restoreWithImports start.context snapshot start.nextPaneId start.nextTerminal
    start.nextWorkspace imports.keys.toFinset
  if restored.state.failedImports = 0 ∧ restored.state.importedPanes = ∅ then some restored
  else none

/-! ### The source server -/

structure LiveHandoffRequest where
  app : RunningApp
  runtimes : List TerminalId
  expectedProtocol : Option Nat
  expectedVersion : Option String
  token : String
  importer : ImportStart

def ImportServer.notSpawned (start : ImportStart) : ImportServer where
  start := start
  alive := false
  phase := .absent
  manifest := none
  fds := []
  imports := ∅
  session := none
  reading := []
  ownsProcesses := false

namespace Handoff

variable (h : Handoff)

/-- Nobody answers any more on the sockets of a server that is gone. -/
def socketWithout (party : Party) (socket : Option Party) : Option Party :=
  if socket = some party then none else socket

def importerGone : Handoff :=
  { h with
    importer := { h.importer with alive := false }
    apiSocket := socketWithout .importer h.apiSocket
    clientSocket := socketWithout .importer h.clientSocket }

def sourceAt (phase : SourcePhase) : Handoff :=
  { h with source := { h.source with phase := phase } }

def recoverWith (recovery : Recovery) : Handoff :=
  { h with source := { h.source with recovery := recovery } }

def resume (restoreFailed : Bool) : Handoff :=
  h.recoverWith (.resuming h.source.pausedTerminalIds restoreFailed)

/-- Whether a request for a handoff is served: the server is neither in one nor about to exit. -/
def acceptsRequest : Bool :=
  h.source.alive &&
    match h.source.phase, h.source.recovery with
    | .idle, .none => true
    | _, .failed _ => true
    | _, _ => false

/-- The start of `perform_live_handoff`; `bound` is whether the handoff socket could be bound. -/
def request (r : LiveHandoffRequest) (bound : Bool) : Option Handoff :=
  let panes := paneByTerminal r.app.workspaces
  if !h.acceptsRequest then none
  else if !bound then some { h with source := { h.source with handoffInProgress := false } }
  else if maxFdsPerHandoff < panes.entries.length then some h
  else
    some { h with
      source := { h.source with
        app := r.app
        runtimes := r.runtimes
        phase := .pausing panes.keys
        recovery := .none
        paneByTerminal := panes
        pausedTerminalIds := []
        handoffEntries := []
        manifest := manifestFor h.source.build
          (capture r.app.terminals r.app.workspaces r.app.active r.app.selected) []
          r.expectedProtocol r.expectedVersion
        fds := []
        handoffInProgress := true }
      importer := .notSpawned r.importer
      leftover := h.importer :: h.leftover
      token := r.token
      toSource := []
      toImporter := []
      listening := true
      connected := false }

/-- What the next operation of `perform_live_handoff` does when it succeeds. -/
def sourceSucceeds : Option Handoff :=
  match h.source.phase with
  | .idle => none
  | .pausing [] => some (h.sourceAt .spawning)
  | .pausing (terminalId :: keys) =>
    if terminalId ∈ h.source.runtimes then
      some { h with source := { h.source with
        phase := .pausing keys
        quiesced := terminalId :: h.source.quiesced
        pausedTerminalIds := h.source.pausedTerminalIds ++ [terminalId] } }
    else some (h.sourceAt (.pausing keys))
  | .spawning =>
    let entries := handoffEntries h.source.runtimes h.source.paneByTerminal
    some { h with
      source := { h.source with
        phase := .duplicating entries
        handoffEntries := entries
        manifest := { h.source.manifest with panes := entries.map Prod.snd } }
      importer := { h.importer with alive := true, phase := .connecting } }
  | .duplicating [] => some (h.sourceAt .accepting)
  | .duplicating ((terminalId, _) :: entries) =>
    if terminalId ∉ h.source.runtimes then some (h.sourceAt (.duplicating entries))
    -- the actor refuses to duplicate the descriptor unless it is quiesced
    else if terminalId ∈ h.source.quiesced then
      some { h with source := { h.source with
        phase := .duplicating entries
        fds := h.source.fds ++ [terminalId] } }
    else none
  | .accepting => if h.connected then some (h.sourceAt .authenticating) else none
  | .authenticating =>
    match h.toSource with
    | .token token :: toSource =>
      if token = h.token then some { h.sourceAt .sendingManifest with toSource := toSource }
      else none
    | _ => none
  | .sendingManifest =>
    some { h.sourceAt .validating with toImporter := h.toImporter ++ [.manifest h.source.manifest] }
  | .validating =>
    match h.toSource with
    | .validated :: toSource =>
      some { h.sourceAt .sendingFds with toSource := toSource, listening := false }
    | _ => none
  | .sendingFds =>
    if maxFdsPerHandoff < h.source.fds.length then none
    else if h.source.fds.isEmpty then some (h.sourceAt .restoring)
    else some { h.sourceAt .restoring with toImporter := h.toImporter ++ [.fds h.source.fds] }
  | .restoring =>
    match h.toSource with
    | .restored :: toSource => some { h.sourceAt .unlinkingApi with toSource := toSource }
    | _ => none
  | .unlinkingApi =>
    some { h.sourceAt .unlinkingClient with apiSocket := socketWithout .source h.apiSocket }
  | .unlinkingClient =>
    some { h.sourceAt .readying with clientSocket := socketWithout .source h.clientSocket }
  | .readying =>
    match h.toSource with
    | .ready :: toSource => some { h.sourceAt .committing with toSource := toSource }
    | _ => none
  | .committing =>
    some { h.sourceAt (.releasing h.source.runtimes) with
      toImporter := h.toImporter ++ [.committed] }
  | .releasing [] => some (h.sourceAt .acknowledging)
  | .releasing (terminalId :: drained) =>
    some { h with
      source := { h.source with
        phase := .releasing drained
        runtimes := h.source.runtimes.erase terminalId }
      -- a runtime without a pane is dropped with its processes
      terminated :=
        if terminalId ∈ h.source.paneByTerminal then h.terminated else terminalId :: h.terminated }
  | .acknowledging =>
    match h.toSource with
    | .owned :: toSource => some { h.sourceAt (.done true) with toSource := toSource }
    | _ => none
  | .done _ => none

/-- What follows when it fails. After the commit, and where a socket file cannot be removed, the
error is only logged. -/
def sourceFails : Option Handoff :=
  match h.source.phase with
  | .idle | .pausing [] | .releasing [] | .done _ => none
  | .pausing (terminalId :: _) =>
    if terminalId ∈ h.source.runtimes then some (h.resume false) else none
  | .spawning => some (h.resume false)
  | .duplicating [] => none
  | .duplicating (_ :: _) | .accepting | .authenticating | .sendingManifest | .validating
  | .sendingFds | .restoring | .readying | .committing => some (h.recoverWith .killing)
  | .unlinkingApi => some (h.sourceAt .unlinkingClient)
  | .unlinkingClient => some (h.sourceAt .readying)
  | .releasing (_ :: _) => h.sourceSucceeds
  | .acknowledging => some (h.sourceAt (.done false))

def sourceStep (ok : Bool) : Option Handoff :=
  match h.source.alive, h.source.recovery with
  | true, .none => if ok then h.sourceSucceeds else h.sourceFails
  | _, _ => none

/-- Whether the public sockets were given up before the operation that failed. -/
def gaveUpSockets : Bool :=
  match h.source.phase with
  | .readying | .committing => true
  | _ => false

/-- The recovery after a failure: `cleanup_failed_import_child`,
`wait_then_restore_public_sockets_after_failed_handoff` and `rollback_handoff_before_commit`. -/
def recoverStep (ok : Bool) : Option Handoff :=
  match h.source.alive, h.source.recovery, ok with
  | true, .killing, true =>
    let h := h.importerGone
    some (if h.gaveUpSockets then h.recoverWith .awaitingSockets else h.resume false)
  | true, .awaitingSockets, true =>
    if h.apiSocket.isNone && h.clientSocket.isNone then some (h.recoverWith .bindingApi) else none
  | true, .bindingApi, true =>
    if h.apiSocket.isNone then
      some { h.recoverWith .bindingClient with apiSocket := some .source }
    else none
  | true, .bindingClient, true =>
    if h.clientSocket.isNone then some { h.resume false with clientSocket := some .source }
    else none
  | true, .awaitingSockets, false | true, .bindingApi, false => some (h.resume true)
  | true, .bindingClient, false =>
    -- the new API server is dropped
    some { h.resume true with apiSocket := socketWithout .source h.apiSocket }
  | true, .resuming [] restoreFailed, true =>
    some { h with
      source := { h.source with
        recovery := .failed restoreFailed
        handoffInProgress := false }
      listening := false }
  | true, .resuming (terminalId :: paused) restoreFailed, ok =>
    some { h with source := { h.source with
      recovery := .resuming paused restoreFailed
      quiesced := if ok then h.source.quiesced.filter (· ≠ terminalId) else h.source.quiesced } }
  | _, _, _ => none

def sourceCrash : Option Handoff :=
  if h.source.alive then
    some { h with
      source := { h.source with alive := false }
      listening := false
      apiSocket := socketWithout .source h.apiSocket
      clientSocket := socketWithout .source h.clientSocket }
  else none

/-! ### The import server -/

def importAt (phase : ImportPhase) : Handoff :=
  { h with importer := { h.importer with phase := phase } }

/-- What the next operation of `run_handoff_import_server` does when it succeeds. -/
def importSucceeds : Option Handoff :=
  match h.importer.phase with
  | .absent | .serving _ => none
  | .connecting =>
    if h.listening then some { h.importAt .authenticating with connected := true } else none
  | .authenticating =>
    some { h.importAt .receivingManifest with toSource := h.toSource ++ [.token h.token] }
  | .receivingManifest =>
    match h.toImporter with
    | .manifest manifest :: toImporter =>
      if h.importer.start.build.accepts manifest then
        some { h with
          importer := { h.importer with phase := .validating, manifest := some manifest }
          toImporter := toImporter }
      else none
    | _ => none
  | .validating =>
    some { h.importAt .receivingFds with toSource := h.toSource ++ [.validated] }
  | .receivingFds =>
    match h.importer.manifest, h.toImporter with
    | some manifest, toImporter =>
      if manifest.panes.isEmpty then
        some { h with importer := { h.importer with phase := .building, fds := [] } }
      else
        match toImporter with
        | .fds fds :: toImporter =>
          if fds.length = manifest.panes.length then
            some { h with
              importer := { h.importer with phase := .building, fds := fds }
              toImporter := toImporter }
          else none
        | _ => none
    | none, _ => none
  | .building =>
    match h.importer.manifest with
    | some manifest =>
      let imports := Table.collect (manifest.panes.zip h.importer.fds)
      (restoreHandoff h.importer.start manifest.snapshot imports).map fun session =>
        { h with importer := { h.importer with
            phase := .reportingRestored
            imports := imports
            session := some session } }
    | none => none
  | .reportingRestored =>
    some { h.importAt .awaitingSockets with toSource := h.toSource ++ [.restored] }
  | .awaitingSockets =>
    if h.apiSocket.isNone && h.clientSocket.isNone then some (h.importAt .bindingApi) else none
  | .bindingApi =>
    if h.apiSocket.isNone then
      some { h.importAt .bindingClient with apiSocket := some .importer }
    else none
  | .bindingClient =>
    if h.clientSocket.isNone then
      some { h.importAt .reportingReady with clientSocket := some .importer }
    else none
  | .reportingReady =>
    some { h.importAt .awaitingCommit with toSource := h.toSource ++ [.ready] }
  | .awaitingCommit =>
    match h.toImporter with
    | .committed :: toImporter => some { h.importAt .assuming with toImporter := toImporter }
    | _ => none
  | .assuming =>
    some { h with importer := { h.importer with
      phase := .unpausing h.importer.imports.values
      ownsProcesses := true } }
  | .unpausing [] => some (h.importAt .reportingOwned)
  | .unpausing (terminalId :: remaining) =>
    some { h with importer := { h.importer with
      phase := .unpausing remaining
      reading := terminalId :: h.importer.reading } }
  | .reportingOwned =>
    some { h.importAt (.serving true) with toSource := h.toSource ++ [.owned] }

/-- The import server returns an error and drops its runtimes; once it owns the processes, errors
are only logged. -/
def importFails : Option Handoff :=
  match h.importer.phase with
  | .absent | .assuming | .unpausing [] | .serving _ => none
  | .unpausing (_ :: remaining) => some (h.importAt (.unpausing remaining))
  | .reportingOwned => some (h.importAt (.serving false))
  | _ =>
    some { h.importerGone with
      terminated :=
        if h.importer.ownsProcesses then h.importer.imports.values ++ h.terminated
        else h.terminated }

def importStep (ok : Bool) : Option Handoff :=
  if h.importer.alive then (if ok then h.importSucceeds else h.importFails) else none

def importCrash : Option Handoff :=
  if h.importer.alive then some h.importerGone else none

end Handoff

/-! ### Runs -/

inductive HandoffEvent
  | request (r : LiveHandoffRequest) (bound : Bool)
  | source (ok : Bool)
  | recover (ok : Bool)
  | importer (ok : Bool)
  | sourceCrashes
  | importerCrashes

namespace Handoff

def next (h : Handoff) : HandoffEvent → Option Handoff
  | .request r bound => h.request r bound
  | .source ok => h.sourceStep ok
  | .recover ok => h.recoverStep ok
  | .importer ok => h.importStep ok
  | .sourceCrashes => h.sourceCrash
  | .importerCrashes => h.importCrash

def Step (h : Handoff) (e : HandoffEvent) (h' : Handoff) : Prop :=
  h.next e = some h'

/-- A server that serves, holds the public sockets and has not been asked for a handoff. -/
structure Serving (h : Handoff) : Prop where
  alive : h.source.alive
  phase_eq : h.source.phase = .idle
  recovery_eq : h.source.recovery = .none
  quiesced_eq : h.source.quiesced = []
  handoffEntries_eq : h.source.handoffEntries = []
  importer_dead : ¬ h.importer.alive
  leftover_eq : h.leftover = []
  api_eq : h.apiSocket = some .source
  client_eq : h.clientSocket = some .source
  terminated_eq : h.terminated = []

/-- The terminals whose PTY a server may read. -/
def SourceReads (h : Handoff) (terminalId : TerminalId) : Prop :=
  h.source.alive ∧ terminalId ∈ h.source.runtimes ∧ terminalId ∉ h.source.quiesced

def ImporterReads (h : Handoff) (terminalId : TerminalId) : Prop :=
  (h.importer.alive ∧ terminalId ∈ h.importer.reading) ∨
    ∃ importer ∈ h.leftover, importer.alive ∧ terminalId ∈ importer.reading

end Handoff

end Ork3.Server
