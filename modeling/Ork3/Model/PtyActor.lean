import Ork3.Library.Run

/-!
# The actor that owns a PTY

`pty/actor/unix.rs`: the thread that reads from and writes to the PTY of a pane, the handles through
which others reach it, and the one handoff controller. A step is what happens under one lock, one
access to a channel or one system call. Sizes of windows are left out.
-/

namespace Ork3.Pty

def actorCommandBuffer : Nat := 1024

inductive ActorState
  | running | quiesced | released
  deriving DecidableEq

/-- What waits to be written, with where it comes from. -/
inductive Message
  | userInput (bytes : List UInt8)
  | terminalResponse (bytes : List UInt8)
  deriving DecidableEq

def Message.bytes : Message → List UInt8
  | userInput bytes => bytes
  | terminalResponse bytes => bytes

/-- A command with the number of the call of the controller that sent it. -/
inductive PtyIoControlCommand
  | beginHandoff (call : Nat)
  | duplicateForHandoff (call : Nat)
  | foregroundProcessGroup
  | rollbackHandoff (call : Nat)
  | releaseAfterCommit (call : Nat)
  | shutdown
  deriving DecidableEq

inductive ExitCause
  | released | shutdown | handlesDropped | readerEnded | pollFailed
  deriving DecidableEq

/-- Where `flush_pending_writes_once` returns to. -/
inductive FlushReturn
  | beginHandoff (call : Nat)
  | poll
  | afterPoll (readReady : Bool)
  deriving DecidableEq

/-- Where the actor's thread is in its loop. On its way out it first drops the receiver of the data
commands and then that of the control commands. -/
inductive Phase
  | drainControl
  | drainData
  | applyControls
  | beginDrain (call : Nat)
  | beginControls (call : Nat)
  | beginLoop (call : Nat)
  | flush (ret : FlushReturn)
  | poll
  | read
  | exiting (cause : ExitCause)
  | dataDropped (cause : ExitCause)
  | ended (cause : ExitCause)
  deriving DecidableEq

def Phase.exitCause : Phase → Option ExitCause
  | .exiting cause | .dataDropped cause | .ended cause => some cause
  | _ => none

/-- What the one handoff controller is doing. -/
inductive Controller
  | idle
  | beginning
  /-- `begin_handoff` has failed and rolls back next. -/
  | beginFailed
  | rollingBack (inBegin : Bool)
  | duplicating
  /-- `release_after_commit` has closed the gate. -/
  | releaseClosed
  | releasing
  deriving DecidableEq

/-- `reply` is what has arrived on the channel of the call that waits. The rest is a record of the
run: what was accepted, what was put in the queue of writes, what the PTY received, whether a write
failed, whether a `begin_handoff` returned `Ok` and no rollback has been called since, and whether
one returned an error and nothing has closed the gate since. -/
structure PtyIoActor where
  accepting : Bool
  dataQueue : List (List UInt8)
  permits : Nat
  controlQueue : List PtyIoControlCommand
  resize : Option (List (List UInt8))
  nudge : Bool
  controller : Controller
  call : Nat
  reply : Option Bool
  shutdowns : Nat
  handlesDropped : Bool
  state : ActorState
  pendingWrites : List Message
  currentWriteOffset : Nat
  phase : Phase
  accepted : List (List UInt8)
  queued : List Message
  written : List UInt8
  writeFailed : Bool
  quiet : Bool
  beginReturnedError : Bool

inductive WriteOutcome
  | wrote (n : Nat)
  | wouldBlock
  | interrupted
  | failed

inductive ReadOutcome
  | data (bytes : List UInt8) (terminalResponses : List (List UInt8))
  | wouldBlock
  | interrupted
  | eof
  | failed

inductive ActorEvent
  | go
  | deadline
  | write (outcome : WriteOutcome)
  | ready (wake writeReady readReady : Bool)
  | pollFailed
  | read (outcome : ReadOutcome)

inductive PtyAction
  | reserve
  | sendReserved (bytes : List UInt8)
  | tryWriteUserInput (bytes : List UInt8)
  | resize (terminalResponses : List (List UInt8))
  | nudgeChildRedrawAfterHandoff
  | foregroundProcessGroupId
  | shutdownClose
  | shutdownSend
  | dropHandles
  | beginHandoff
  | beginReplied
  | beginTimedOut
  | rollbackHandoff
  | rollbackReplied
  | rollbackTimedOut
  | duplicateForHandoff
  | duplicateReturned
  | releaseClose
  | releaseSend
  | releaseReturned
  | actor (event : ActorEvent)

namespace PtyIoActor

def start (initiallyQuiesced : Bool) : PtyIoActor where
  accepting := !initiallyQuiesced
  dataQueue := []
  permits := 0
  controlQueue := []
  resize := none
  nudge := false
  controller := .idle
  call := 0
  reply := none
  shutdowns := 0
  handlesDropped := false
  state := if initiallyQuiesced then .quiesced else .running
  pendingWrites := []
  currentWriteOffset := 0
  phase := .drainControl
  accepted := []
  queued := []
  written := []
  writeFailed := false
  quiet := false
  beginReturnedError := false

/-! ### The actor -/

def enqueueWrite (s : PtyIoActor) (message : Message) : PtyIoActor :=
  if message.bytes = [] then s
  else
    { s with
      pendingWrites := s.pendingWrites ++ [message]
      queued := s.queued ++ [message] }

def enqueueTerminalResponses (s : PtyIoActor) (terminalResponses : List (List UInt8)) :
    PtyIoActor :=
  if s.state = .released then s
  else terminalResponses.foldl (fun s bytes => s.enqueueWrite (.terminalResponse bytes)) s

def applyPendingControls (s : PtyIoActor) : PtyIoActor :=
  let resize := s.resize
  let s := { s with
    resize := none
    nudge := false }
  match resize with
  | none => s
  | some terminalResponses => s.enqueueTerminalResponses terminalResponses

/-- The reply to a call arrives if the controller still waits for it. -/
def sendReply (s : PtyIoActor) (call : Nat) (ok : Bool) : PtyIoActor :=
  if call = s.call && s.controller ≠ .idle then { s with reply := some ok } else s

def handleControlCommand (s : PtyIoActor) : PtyIoControlCommand → PtyIoActor
  | .beginHandoff call => { s with phase := .beginDrain call }
  | .duplicateForHandoff call => s.sendReply call (s.state = .quiesced)
  | .foregroundProcessGroup => s
  | .rollbackHandoff call =>
    if s.state = .released then s.sendReply call false
    else { s with state := .running }.sendReply call true
  | .releaseAfterCommit call =>
    { s with
      state := .released
      pendingWrites := []
      phase := .exiting .released }.sendReply call true
  | .shutdown => { s with phase := .exiting .shutdown }

def handleDataCommand (s : PtyIoActor) (bytes : List UInt8) : PtyIoActor :=
  if s.state = .running then s.enqueueWrite (.userInput bytes) else s

/-- One turn of the loop of `drain_control_commands`. -/
def drainControlCommand (s : PtyIoActor) : PtyIoActor :=
  match s.controlQueue with
  | command :: rest => { s with controlQueue := rest }.handleControlCommand command
  | [] => { s with phase := if s.handlesDropped then .exiting .handlesDropped else .drainData }

def drainDataCommand (s : PtyIoActor) : PtyIoActor :=
  match s.dataQueue with
  | bytes :: rest => { s with dataQueue := rest }.handleDataCommand bytes
  | [] => { s with phase := if s.handlesDropped then .exiting .handlesDropped else .applyControls }

def drainPreQuiesceCommand (s : PtyIoActor) (call : Nat) : PtyIoActor :=
  match s.dataQueue with
  | bytes :: rest =>
    let s := { s with dataQueue := rest }
    if s.state ≠ .released then s.enqueueWrite (.userInput bytes) else s
  | [] => { s with phase := .beginControls call }

def beginApplyControls (s : PtyIoActor) (call : Nat) : PtyIoActor :=
  let s := s.applyPendingControls
  if s.state = .released then { s with phase := .drainControl }.sendReply call false
  else { s with phase := .beginLoop call }

/-- The head of the loop in `begin_handoff`. -/
def beginTurn (s : PtyIoActor) (call : Nat) (deadline : Bool) : PtyIoActor :=
  if s.pendingWrites = [] then
    { s with
      state := .quiesced
      phase := .drainControl }.sendReply call true
  else if deadline then { s with phase := .drainControl }.sendReply call false
  else { s with phase := .flush (.beginHandoff call) }

/-- What follows the flush after a poll. -/
def afterPoll (s : PtyIoActor) (readReady : Bool) : PtyIoActor :=
  { s with phase := if s.state = .running && readReady then .read else .drainControl }

def flushReturns (s : PtyIoActor) : FlushReturn → PtyIoActor
  | .beginHandoff call => { s with phase := .beginLoop call }
  | .poll => { s with phase := .poll }
  | .afterPoll readReady => s.afterPoll readReady

/-- One call of `write` with what is left of the first message. -/
def writeHead (s : PtyIoActor) (ret : FlushReturn) (message : Message) (rest : List Message) :
    WriteOutcome → PtyIoActor
  | .wrote n =>
    if n = 0 then s.flushReturns ret
    else
      let chunk := message.bytes.drop s.currentWriteOffset
      let s := { s with written := s.written ++ chunk.take n }
      if message.bytes.length ≤ s.currentWriteOffset + n then
        { s with
          pendingWrites := rest
          currentWriteOffset := 0 }
      else { s with currentWriteOffset := s.currentWriteOffset + n }
  | .wouldBlock => s.flushReturns ret
  | .interrupted => s.flushReturns ret
  | .failed =>
    { s with
      pendingWrites := []
      currentWriteOffset := 0
      writeFailed := true }.flushReturns ret

def readOnce (s : PtyIoActor) : ReadOutcome → PtyIoActor
  | .data _ terminalResponses =>
    { s with phase := .drainControl }.enqueueTerminalResponses terminalResponses
  | .wouldBlock => { s with phase := .drainControl }
  | .interrupted => { s with phase := .drainControl }
  | .eof => { s with phase := .exiting .readerEnded }
  | .failed => { s with phase := .exiting .readerEnded }

def pollReady (s : PtyIoActor) (wake writeReady readReady : Bool) : PtyIoActor :=
  if wake then { s with phase := .drainControl }
  else if writeReady && s.pendingWrites ≠ [] then
    { s with phase := .flush (.afterPoll readReady) }
  else s.afterPoll readReady

/-- A write takes at most what it is given. -/
def actorStep (s : PtyIoActor) (event : ActorEvent) : Option PtyIoActor :=
  match s.phase, event with
  | .drainControl, .go => some s.drainControlCommand
  | .drainData, .go => some s.drainDataCommand
  | .applyControls, .go => some { s.applyPendingControls with phase := .flush .poll }
  | .beginDrain call, .go => some (s.drainPreQuiesceCommand call)
  | .beginControls call, .go => some (s.beginApplyControls call)
  | .beginLoop call, .go => some (s.beginTurn call false)
  | .beginLoop call, .deadline => some (s.beginTurn call true)
  | .flush ret, .go => if s.pendingWrites = [] then some (s.flushReturns ret) else none
  | .flush ret, .write outcome =>
    match s.pendingWrites with
    | [] => none
    | message :: rest => some (s.writeHead ret message rest outcome)
  | .poll, .ready wake writeReady readReady => some (s.pollReady wake writeReady readReady)
  | .poll, .pollFailed => some { s with phase := .exiting .pollFailed }
  | .read, .read outcome => some (s.readOnce outcome)
  | .exiting cause, .go => some { s with phase := .dataDropped cause }
  | .dataDropped cause, .go => some { s with phase := .ended cause }
  | _, _ => none

/-! ### The handles -/

def dataClosed (s : PtyIoActor) : Bool :=
  match s.phase with
  | .dataDropped _ | .ended _ => true
  | _ => false

def controlClosed (s : PtyIoActor) : Bool :=
  match s.phase with
  | .ended _ => true
  | _ => false

def hasRoom (s : PtyIoActor) : Bool :=
  s.dataQueue.length + s.permits < actorCommandBuffer

def accept (s : PtyIoActor) (bytes : List UInt8) : PtyIoActor :=
  { s with
    dataQueue := s.dataQueue ++ [bytes]
    accepted := s.accepted ++ [bytes] }

/-- The rest of `write_user_input` once it has a permit. -/
def sendReserved (s : PtyIoActor) (bytes : List UInt8) : PtyIoActor :=
  let s := { s with permits := s.permits - 1 }
  if s.accepting then s.accept bytes else s

def tryWriteUserInput (s : PtyIoActor) (bytes : List UInt8) : PtyIoActor :=
  if s.accepting && !s.dataClosed && s.hasRoom then s.accept bytes else s

/-- A call sends its command under a new number. -/
def callActor (s : PtyIoActor) (command : Nat → PtyIoControlCommand) (controller : Controller) :
    PtyIoActor :=
  { s with
    call := s.call + 1
    reply := none
    controlQueue := s.controlQueue ++ [command (s.call + 1)]
    controller := controller }

def beginHandoff (s : PtyIoActor) : PtyIoActor :=
  if s.controlClosed then
    { s with
      accepting := true
      beginReturnedError := true }
  else
    { s with
      accepting := false
      beginReturnedError := false }.callActor .beginHandoff .beginning

/-- `begin_handoff` has its reply. -/
def beginReplied (s : PtyIoActor) (ok : Bool) : PtyIoActor :=
  if ok then
    { s with
      controller := .idle
      quiet := true }
  else { s with controller := .beginFailed }

/-- The controller is done with a rollback; within `begin_handoff` this returns the error. -/
def rollbackReturned (s : PtyIoActor) (inBegin : Bool) : PtyIoActor :=
  { s with
    controller := .idle
    beginReturnedError := s.beginReturnedError || inBegin }

def rollbackHandoff (s : PtyIoActor) (inBegin : Bool) : PtyIoActor :=
  let s := { s with quiet := false }
  if s.controlClosed then s.rollbackReturned inBegin
  else s.callActor .rollbackHandoff (.rollingBack inBegin)

def rollbackReplied (s : PtyIoActor) (inBegin ok : Bool) : PtyIoActor :=
  if ok then { s with accepting := true }.rollbackReturned inBegin
  else s.rollbackReturned inBegin

end PtyIoActor

open PtyIoActor in
/-- What the handles, the controller and the actor may do. A wait ends with a reply, or with a
timeout or a closed channel while there is none. -/
def PtyAction.Step (s : PtyIoActor) (a : PtyAction) (s' : PtyIoActor) : Prop :=
  match a with
  | .actor event => s.actorStep event = some s'
  | .dropHandles => s.handlesDropped = false ∧ s.controller = .idle ∧ s.permits = 0 ∧
    s.shutdowns = 0 ∧ s' = { s with handlesDropped := true }
  | .reserve => s.handlesDropped = false ∧ s.dataClosed = false ∧ s.hasRoom = true ∧
    s' = { s with permits := s.permits + 1 }
  | .sendReserved bytes => 0 < s.permits ∧ s' = s.sendReserved bytes
  | .tryWriteUserInput bytes => s.handlesDropped = false ∧ s' = s.tryWriteUserInput bytes
  | .resize terminalResponses => s.handlesDropped = false ∧
    s' = { s with resize := some terminalResponses }
  | .nudgeChildRedrawAfterHandoff => s.handlesDropped = false ∧ s' = { s with nudge := true }
  | .foregroundProcessGroupId => s.handlesDropped = false ∧ s.controlClosed = false ∧
    s' = { s with controlQueue := s.controlQueue ++ [.foregroundProcessGroup] }
  | .shutdownClose => s.handlesDropped = false ∧
    s' = { s with
      accepting := false
      beginReturnedError := false
      shutdowns := s.shutdowns + 1 }
  | .shutdownSend => 0 < s.shutdowns ∧
    s' = { s with
      shutdowns := s.shutdowns - 1
      controlQueue := if s.controlClosed then s.controlQueue else s.controlQueue ++ [.shutdown] }
  | .beginHandoff => s.handlesDropped = false ∧ s.controller = .idle ∧ s' = s.beginHandoff
  | .beginReplied => ∃ ok, s.controller = .beginning ∧ s.reply = some ok ∧ s' = s.beginReplied ok
  | .beginTimedOut => s.controller = .beginning ∧ s.reply = none ∧ s' = s.beginReplied false
  | .rollbackHandoff => s.handlesDropped = false ∧
    ((s.controller = .idle ∧ s' = s.rollbackHandoff false) ∨
      (s.controller = .beginFailed ∧ s' = s.rollbackHandoff true))
  | .rollbackReplied => ∃ inBegin ok, s.controller = .rollingBack inBegin ∧ s.reply = some ok ∧
    s' = s.rollbackReplied inBegin ok
  | .rollbackTimedOut => ∃ inBegin, s.controller = .rollingBack inBegin ∧ s.reply = none ∧
    s' = s.rollbackReplied inBegin false
  | .duplicateForHandoff => s.handlesDropped = false ∧ s.controller = .idle ∧
    s' = if s.controlClosed then s else s.callActor .duplicateForHandoff .duplicating
  | .duplicateReturned => s.controller = .duplicating ∧ s' = { s with controller := .idle }
  | .releaseClose => s.handlesDropped = false ∧ s.controller = .idle ∧
    s' = { s with
      accepting := false
      beginReturnedError := false
      controller := .releaseClosed }
  | .releaseSend => s.controller = .releaseClosed ∧
    s' = if s.controlClosed then { s with controller := .idle }
      else s.callActor .releaseAfterCommit .releasing
  | .releaseReturned => s.controller = .releasing ∧ s' = { s with controller := .idle }

end Ork3.Pty
