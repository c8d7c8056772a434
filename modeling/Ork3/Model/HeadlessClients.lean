import Ork3.Model.RawInput
import Ork3.Model.Workspace

/-!
# The clients of the headless server

The part of `server/headless.rs` that says which client is in the foreground and which one owns the
writable attachment of a terminal. A resize of the shared runtime changes nothing of it.
-/

namespace Ork3.Server

open Ork3.Library Ork3.Input

inductive ClientConnectionMode
  | app
  | terminalAttach (terminalId : String)
  | terminalObserve (terminalId : String)
  deriving DecidableEq

/-- A connected client tracked by the server. -/
structure ClientConnection where
  mode : ClientConnectionMode
  /-- True after the handshake for clients that will switch into direct terminal attach mode. -/
  pendingTerminalAttach : Bool
  terminalSize : UInt16 × UInt16
  rawInput : RawInputFramer
  lastActivity : Nat
  /-- Whether there is a writer. -/
  writer : Bool

def ClientConnection.isFullAppClient (client : ClientConnection) : Bool :=
  client.mode = .app && !client.pendingTerminalAttach

/-- What the application knows of its terminals. -/
structure AppTerminals where
  terminals : Finset TerminalId
  directAttachResizeLocks : Finset TerminalId

structure HeadlessServer where
  app : AppTerminals
  clients : Table Nat ClientConnection
  foregroundClientId : Option Nat
  terminalAttachOwners : Table String Nat
  effectiveSize : UInt16 × UInt16
  nextActivityStamp : Nat
  handoffInProgress : Bool

/-- What is outside the server while it handles one event. -/
structure Surroundings where
  /-- The clients whose writer thread is gone, so that a message to them fails. -/
  writerGone : Nat → Bool
  resolveTerminalTarget : String → Option String
  clipboardImageStaged : Bool
  /-- The application after it has handled the events routed to it. -/
  routed : AppTerminals
  detachRequested : Bool

inductive ServerEvent
  | clientConnected (clientId : Nat) (size : UInt16 × UInt16) (directAttachRequested : Bool)
  | clientAttachTerminal (clientId : Nat) (terminalId : String) (takeover : Bool)
  | clientObserveTerminal (clientId : Nat) (target : String)
  | clientControlTerminal (clientId : Nat) (target : String) (takeover : Bool)
  | clientAttachScroll (clientId : Nat)
  | clientInput (clientId : Nat) (data : List UInt8)
  | clientInputEvents (clientId : Nat) (events : List RawInputEvent)
  | clientClipboardImage (clientId : Nat)
  | clientResize (clientId : Nat) (size : UInt16 × UInt16)
  | clientDetach (clientId : Nat)
  | clientDisconnected (clientId : Nat)
  | clientWriterDrained (clientId : Nat)
  | quitSignal

/-- The client an event comes from. -/
def ServerEvent.clientId : ServerEvent → Option Nat
  | .clientConnected clientId _ _ | .clientAttachTerminal clientId _ _
  | .clientObserveTerminal clientId _ | .clientControlTerminal clientId _ _
  | .clientAttachScroll clientId | .clientInput clientId _ | .clientInputEvents clientId _
  | .clientClipboardImage clientId | .clientResize clientId _ | .clientDetach clientId
  | .clientDisconnected clientId | .clientWriterDrained clientId => some clientId
  | .quitSignal => none

/-! ### Input -/

def eventsIncludeInteraction (events : List RawInputEvent) : Bool :=
  events.any fun
    | .key _ | .mouse _ | .paste _ | .outerFocusGained => true
    | _ => false

def eventsForAppRouting : List RawInputEvent → Bool → Bool → List RawInputEvent
  | [], _, _ => []
  | event :: events, sourceIsForeground, sourceIsFullApp =>
    match event with
    | .outerFocusGained =>
      if !sourceIsFullApp then eventsForAppRouting events sourceIsForeground sourceIsFullApp
      else event :: eventsForAppRouting events true sourceIsFullApp
    | .outerFocusLost =>
      if !sourceIsFullApp || !sourceIsForeground then
        eventsForAppRouting events sourceIsForeground sourceIsFullApp
      else event :: eventsForAppRouting events sourceIsForeground sourceIsFullApp
    | .key _ | .mouse _ | .paste _ => event :: eventsForAppRouting events true sourceIsFullApp
    | _ => event :: eventsForAppRouting events sourceIsForeground sourceIsFullApp

/-- The last of the full app clients with the latest activity. -/
def latestAppClient (clients : Table Nat ClientConnection) : Option Nat :=
  ((clients.entries.filter fun entry => entry.2.isFullAppClient).foldl (fun best entry =>
    match best with
    | none => some entry
    | some held => if held.2.lastActivity ≤ entry.2.lastActivity then some entry else some held)
    none).map (·.1)

namespace HeadlessServer

/-- A server that has just started. -/
def start (app : AppTerminals) : HeadlessServer where
  app := app
  clients := ∅
  foregroundClientId := none
  terminalAttachOwners := ∅
  effectiveSize := (80, 24)
  nextActivityStamp := 1
  handoffInProgress := false

/-! ### The foreground -/

def syncForegroundClientState (st : HeadlessServer) : HeadlessServer :=
  match st.foregroundClientId with
  | none => { st with effectiveSize := (80, 24) }
  | some clientId =>
    match st.clients.lookup clientId with
    | none =>
      { st with
        foregroundClientId := none
        effectiveSize := (80, 24) }
    | some client => { st with effectiveSize := client.terminalSize }

/-- `promote_client_to_foreground`: also whether the foreground changed. -/
def promoteClientToForeground (st : HeadlessServer) (clientId : Nat) : HeadlessServer × Bool :=
  let stamp := st.nextActivityStamp
  let st := { st with nextActivityStamp := st.nextActivityStamp + 1 }
  match st.clients.lookup clientId with
  | none => (st, false)
  | some client =>
    let changed := st.foregroundClientId ≠ some clientId
    let st := { st with
      clients := st.clients.insert clientId { client with lastActivity := stamp }
      foregroundClientId := some clientId }
    (st.syncForegroundClientState, changed)

def promoteLatestRemainingClient (st : HeadlessServer) : HeadlessServer :=
  syncForegroundClientState { st with foregroundClientId := latestAppClient st.clients }

/-! ### Removing clients -/

def terminalIdByString (st : HeadlessServer) (terminalId : String) : Option TerminalId :=
  if ⟨terminalId⟩ ∈ st.app.terminals then some ⟨terminalId⟩ else none

def releaseTerminalAttach (st : HeadlessServer) (terminalId : String) : HeadlessServer :=
  let st := { st with terminalAttachOwners := st.terminalAttachOwners.erase terminalId }
  match st.terminalIdByString terminalId with
  | none => st
  | some id =>
    { st with
      app := { st.app with
        directAttachResizeLocks := st.app.directAttachResizeLocks.erase id } }

/-- `remove_client`, and `remove_client_and_resize_if_needed`. -/
def removeClient (st : HeadlessServer) (clientId : Nat) : HeadlessServer :=
  let removed := st.clients.lookup clientId
  let wasForeground := st.foregroundClientId = some clientId
  let st := { st with clients := st.clients.erase clientId }
  let st := match removed.map ClientConnection.mode with
    | some (.terminalAttach terminalId) => st.releaseTerminalAttach terminalId
    | _ => st
  if wasForeground then st.promoteLatestRemainingClient else st

section
variable (around : Surroundings)

/-- `send_to_client`: a client whose message cannot be sent is removed. -/
def sendToClient (st : HeadlessServer) (clientId : Nat) : HeadlessServer :=
  match st.clients.lookup clientId with
  | none => st
  | some client =>
    if client.writer && around.writerGone clientId then st.removeClient clientId else st

/-- A refusal is told to the client, which is then removed. -/
def refuse (st : HeadlessServer) (clientId : Nat) : HeadlessServer :=
  (st.sendToClient around clientId).removeClient clientId

def shutdownTerminalStreamClients (st : HeadlessServer) (terminalId : String) : HeadlessServer :=
  let clientIds := (st.clients.entries.filter fun entry =>
    entry.2.mode = .terminalAttach terminalId || entry.2.mode = .terminalObserve terminalId).map
      (·.1)
  clientIds.foldl (refuse around) st

def disconnectAllClientsForHandoff (st : HeadlessServer) : HeadlessServer :=
  let st := st.clients.keys.foldl (refuse around) st
  syncForegroundClientState { st with foregroundClientId := none }

/-! ### Terminal sessions -/

def clientIsPendingTerminalMode (st : HeadlessServer) (clientId : Nat) : Bool :=
  match st.clients.lookup clientId with
  | none => false
  | some client => client.pendingTerminalAttach && client.mode = .app

/-- The client switches to the mode; a foreground client gives up the foreground. -/
def switchMode (st : HeadlessServer) (clientId : Nat) (client : ClientConnection)
    (mode : ClientConnectionMode) (stamp : Nat) : HeadlessServer :=
  let st := { st with
    clients := st.clients.insert clientId { client with
      mode := mode
      pendingTerminalAttach := false
      lastActivity := stamp } }
  if st.foregroundClientId = some clientId then st.promoteLatestRemainingClient else st

/-- The owner that is there already refuses the client, or is taken over from. -/
def takeOver (st : HeadlessServer) (clientId : Nat) (terminalId : String) (takeover : Bool) :
    HeadlessServer × Bool :=
  match st.terminalAttachOwners.lookup terminalId with
  | none => (st, true)
  | some existingOwner =>
    if existingOwner ≠ clientId && !takeover then (st.refuse around clientId, false)
    else if existingOwner ≠ clientId then (st.refuse around existingOwner, true)
    else (st, true)

def attachTerminalClient (st : HeadlessServer) (clientId : Nat) (terminalId : String)
    (takeover : Bool) : HeadlessServer :=
  if !st.clientIsPendingTerminalMode clientId then st.refuse around clientId
  else
    match st.terminalIdByString terminalId with
    | none => st.refuse around clientId
    | some realTerminalId =>
      match st.takeOver around clientId terminalId takeover with
      | (st, false) => st
      | (st, true) =>
        let stamp := st.nextActivityStamp
        let st := { st with nextActivityStamp := st.nextActivityStamp + 1 }
        match st.clients.lookup clientId with
        | none => st
        | some client =>
          let st := st.switchMode clientId client (.terminalAttach terminalId) stamp
          { st with
            terminalAttachOwners := st.terminalAttachOwners.insert terminalId clientId
            app := { st.app with
              directAttachResizeLocks :=
                insert realTerminalId st.app.directAttachResizeLocks } }

def resolveTerminalTargetIdString (st : HeadlessServer) (target : String) : Option String :=
  if (st.terminalIdByString target).isSome then some target
  else around.resolveTerminalTarget target

/-- `resolve_terminal_session_target`: the state in which the client is refused, or the id. -/
def resolveTerminalSessionTarget (st : HeadlessServer) (clientId : Nat) (target : String) :
    HeadlessServer ⊕ String :=
  if !st.clientIsPendingTerminalMode clientId then .inl (st.refuse around clientId)
  else
    match st.resolveTerminalTargetIdString around target with
    | none => .inl (st.refuse around clientId)
    | some terminalId => .inr terminalId

def observeTerminalClient (st : HeadlessServer) (clientId : Nat) (target : String) :
    HeadlessServer :=
  match st.resolveTerminalSessionTarget around clientId target with
  | .inl st => st
  | .inr terminalId =>
    let stamp := st.nextActivityStamp
    let st := { st with nextActivityStamp := st.nextActivityStamp + 1 }
    match st.clients.lookup clientId with
    | none => st
    | some client => st.switchMode clientId client (.terminalObserve terminalId) stamp

def controlTerminalClient (st : HeadlessServer) (clientId : Nat) (target : String)
    (takeover : Bool) : HeadlessServer :=
  match st.resolveTerminalSessionTarget around clientId target with
  | .inl st => st
  | .inr terminalId => st.attachTerminalClient around clientId terminalId takeover

/-! ### Events -/

/-- The detaching a keybinding asked for: the client is told and loses its writer. -/
def detachRequestedClient (st : HeadlessServer) (clientId : Nat) : HeadlessServer :=
  let st := st.sendToClient around clientId
  { st with
    clients := Table.modify clientId (fun client => { client with writer := false }) st.clients }

def handleClientInputEvents (st : HeadlessServer) (clientId : Nat)
    (events : List RawInputEvent) : HeadlessServer :=
  let sourceWasForeground := st.foregroundClientId = some clientId
  let sourceIsFullApp := (st.clients.lookup clientId).any ClientConnection.isFullAppClient
  let events := eventsForAppRouting events sourceWasForeground sourceIsFullApp
  let st :=
    if eventsIncludeInteraction events then (st.promoteClientToForeground clientId).1 else st
  let st := syncForegroundClientState { st with app := around.routed }
  if around.detachRequested then st.detachRequestedClient around clientId else st

/-- The events of the bytes of a client; a bare ESC is flushed at once. -/
def framedEvents (rawInput : RawInputFramer) (data : List UInt8) :
    Except Panic (RawInputFramer × List RawInputEvent) := do
  let (rawInput, events) ← rawInput.push data
  if data = [0x1b] then do
    let (rawInput, flushed) ← rawInput.flushTimeout
    return (rawInput, (events ++ flushed).map (·.2))
  else return (rawInput, events.map (·.2))

def handleClientInput (st : HeadlessServer) (clientId : Nat) (data : List UInt8) :
    Except Panic HeadlessServer :=
  match st.clients.lookup clientId with
  | none => .ok (st.handleClientInputEvents around clientId [])
  | some client =>
    match client.mode with
    | .terminalAttach _ => .ok st
    | .terminalObserve _ => .ok st
    | .app => do
      let (rawInput, events) ← framedEvents client.rawInput data
      let st := { st with
        clients := st.clients.insert clientId { client with rawInput := rawInput } }
      return st.handleClientInputEvents around clientId events

def isObserving (st : HeadlessServer) (clientId : Nat) : Bool :=
  match (st.clients.lookup clientId).map ClientConnection.mode with
  | some (.terminalObserve _) => true
  | _ => false

def pasteClientClipboardImagePath (st : HeadlessServer) (clientId : Nat) : HeadlessServer :=
  match (st.clients.lookup clientId).map ClientConnection.mode with
  | some (.terminalAttach _) => st
  | _ => { (st.promoteClientToForeground clientId).1 with app := around.routed }

def handleClientResize (st : HeadlessServer) (clientId : Nat) (size : UInt16 × UInt16) :
    HeadlessServer :=
  match st.clients.lookup clientId with
  | none => (st.promoteClientToForeground clientId).1
  | some client =>
    let resized := { st with
      clients := st.clients.insert clientId { client with terminalSize := size } }
    match client.mode with
    | .terminalAttach _ => resized
    | .terminalObserve _ => resized
    | .app => (resized.promoteClientToForeground clientId).1

def handleClientConnected (st : HeadlessServer) (clientId : Nat) (size : UInt16 × UInt16)
    (directAttachRequested : Bool) : HeadlessServer :=
  if st.handoffInProgress then st
  else
    let stamp := st.nextActivityStamp
    let st := { st with
      nextActivityStamp := st.nextActivityStamp + 1
      clients := st.clients.insert clientId
        { mode := .app
          pendingTerminalAttach := directAttachRequested
          terminalSize := size
          rawInput := {}
          lastActivity := stamp
          writer := true } }
    let st := if directAttachRequested then st else { st with foregroundClientId := some clientId }
    st.syncForegroundClientState

def handleClientDetach (st : HeadlessServer) (clientId : Nat) : HeadlessServer :=
  let st := match (st.clients.lookup clientId).map ClientConnection.mode with
    | some (.terminalAttach _) | some (.terminalObserve _) => st.sendToClient around clientId
    | _ => st
  st.removeClient clientId

def ignoreClientEventDuringHandoff : ServerEvent → Bool
  | .clientConnected .. | .clientDisconnected _ | .clientWriterDrained _ | .quitSignal => false
  | _ => true

def handleServerEvent (st : HeadlessServer) (ev : ServerEvent) : Except Panic HeadlessServer :=
  if st.handoffInProgress && ignoreClientEventDuringHandoff ev then .ok st
  else
    match ev with
    | .clientConnected clientId size directAttachRequested =>
      .ok (st.handleClientConnected clientId size directAttachRequested)
    | .clientAttachTerminal clientId terminalId takeover =>
      .ok (st.attachTerminalClient around clientId terminalId takeover)
    | .clientObserveTerminal clientId target => .ok (st.observeTerminalClient around clientId target)
    | .clientControlTerminal clientId target takeover =>
      .ok (st.controlTerminalClient around clientId target takeover)
    | .clientAttachScroll _ => .ok st
    | .clientInput clientId data => st.handleClientInput around clientId data
    | .clientInputEvents clientId events =>
      .ok (if st.isObserving clientId then st
        else st.handleClientInputEvents around clientId events)
    | .clientClipboardImage clientId =>
      .ok (if st.isObserving clientId || !around.clipboardImageStaged then st
        else st.pasteClientClipboardImagePath around clientId)
    | .clientResize clientId size => .ok (st.handleClientResize clientId size)
    | .clientDetach clientId => .ok (st.handleClientDetach around clientId)
    | .clientDisconnected clientId => .ok (st.removeClient clientId)
    | .clientWriterDrained _ => .ok st
    | .quitSignal => .ok st

end

end HeadlessServer

end Ork3.Server
