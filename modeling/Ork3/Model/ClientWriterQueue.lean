import Ork3.Library.Run

/-!
# The writer queue of a client

`ClientWriterQueue` of `server/client_transport.rs` with the loop of its writer thread. Control
messages queue up, a render waits in a single slot; senders and the writer take turns under one
lock, and the writer sleeps on a condition variable while there is nothing to write.
-/

namespace Ork3.Server

open Ork3.Library

/-! ### The queue -/

structure ClientWriterQueueState where
  control : List (List UInt8)
  render : Option (List UInt8)
  senders : Nat
  writerAlive : Bool
  deriving DecidableEq

inductive ClientWriteItem
  | control (data : List UInt8)
  | render (data : List UInt8)
  deriving DecidableEq

inductive TrySendError
  | disconnected (data : List UInt8)
  | full (data : List UInt8)
  deriving DecidableEq

/-- What one pass of the loop of `recv` does: it returns an item, returns nothing, or waits. -/
inductive RecvPass
  | item (item : ClientWriteItem)
  | disconnected
  | wait
  deriving DecidableEq

namespace ClientWriterQueueState

def new : ClientWriterQueueState where
  control := []
  render := none
  senders := 0
  writerAlive := true

def addSender (state : ClientWriterQueueState) : ClientWriterQueueState :=
  { state with senders := state.senders + 1 }

def removeSender (state : ClientWriterQueueState) : ClientWriterQueueState :=
  { state with senders := state.senders - 1 }

def sendControl (state : ClientWriterQueueState) (data : List UInt8) :
    Except (List UInt8) ClientWriterQueueState :=
  if ¬state.writerAlive then .error data
  else .ok { state with control := state.control ++ [data] }

def trySendRender (state : ClientWriterQueueState) (data : List UInt8) :
    Except TrySendError ClientWriterQueueState :=
  if ¬state.writerAlive then .error (.disconnected data)
  else if state.render.isSome then .error (.full data)
  else .ok { state with render := some data }

def recvPass (state : ClientWriterQueueState) : RecvPass × ClientWriterQueueState :=
  match state.control, state.render with
  | data :: rest, _ => (.item (.control data), { state with control := rest })
  | [], some data => (.item (.render data), { state with render := none })
  | [], none => (if state.senders = 0 then .disconnected else .wait, state)

def closeWriter (state : ClientWriterQueueState) : ClientWriterQueueState :=
  { state with writerAlive := false }

end ClientWriterQueueState

/-! ### Senders and the writer thread -/

/-- Where the writer thread is: before a pass of `recv`, asleep in it, writing an item, past its loop
or done. -/
inductive WriterPhase
  | receiving
  | waiting
  | writing (item : ClientWriteItem)
  | closing
  | exited
  deriving DecidableEq

/-- The notification wakes the writer if it sleeps; nobody else waits. -/
def WriterPhase.notify : WriterPhase → WriterPhase
  | .waiting => .receiving
  | phase => phase

/-- The queue and its writer. As a record of the run, the messages that were accepted, the items
that `recv` returned, the drain events that were sent and whether a write failed. -/
structure ClientChannel where
  queue : ClientWriterQueueState
  phase : WriterPhase
  acceptedControl : List (List UInt8)
  acceptedRender : List (List UInt8)
  handed : List ClientWriteItem
  writerDrained : Nat
  writeFailed : Bool
  deriving DecidableEq

inductive ChannelAction
  | sendControl (data : List UInt8)
  | trySendRender (data : List UInt8)
  | cloneSender
  | dropSender
  | wake
  | receive
  | write (succeeds : Bool)
  | close
  deriving DecidableEq

namespace ClientChannel

/-- A connected client: one control and one render handle, the writer thread just started. -/
def start : ClientChannel where
  queue := ClientWriterQueueState.new.addSender.addSender
  phase := .receiving
  acceptedControl := []
  acceptedRender := []
  handed := []
  writerDrained := 0
  writeFailed := false

def sendControl (s : ClientChannel) (data : List UInt8) : ClientChannel :=
  match s.queue.sendControl data with
  | .ok queue =>
    { s with
      queue := queue
      phase := s.phase.notify
      acceptedControl := s.acceptedControl ++ [data] }
  | .error _ => s

def trySendRender (s : ClientChannel) (data : List UInt8) : ClientChannel :=
  match s.queue.trySendRender data with
  | .ok queue =>
    { s with
      queue := queue
      phase := s.phase.notify
      acceptedRender := s.acceptedRender ++ [data] }
  | .error _ => s

/-- One pass of `recv` in the loop of the writer. -/
def receive (s : ClientChannel) : ClientChannel :=
  match s.queue.recvPass with
  | (.item item, queue) =>
    { s with
      queue := queue
      phase := .writing item
      handed := s.handed ++ [item] }
  | (.disconnected, queue) =>
    { s with
      queue := queue
      phase := .closing }
  | (.wait, queue) =>
    { s with
      queue := queue
      phase := .waiting }

/-- The body of the loop: a render announces the drained slot before it is written, and a failed
write leaves the loop. -/
def write (s : ClientChannel) (item : ClientWriteItem) (succeeds : Bool) : ClientChannel :=
  let s := match item with
    | .control _ => s
    | .render _ => { s with writerDrained := s.writerDrained + 1 }
  if succeeds then { s with phase := .receiving }
  else
    { s with
      phase := .closing
      writeFailed := true }

/-- One locked access to the queue, or one step of the writer outside the lock. A send needs a
handle, and so does another handle. -/
inductive Step : ClientChannel → ChannelAction → ClientChannel → Prop
  | sendControl (s : ClientChannel) (data : List UInt8) (h : 0 < s.queue.senders) :
      Step s (.sendControl data) (s.sendControl data)
  | trySendRender (s : ClientChannel) (data : List UInt8) (h : 0 < s.queue.senders) :
      Step s (.trySendRender data) (s.trySendRender data)
  | cloneSender (s : ClientChannel) (h : 0 < s.queue.senders) :
      Step s .cloneSender { s with queue := s.queue.addSender }
  | dropSender (s : ClientChannel) (h : 0 < s.queue.senders) :
      Step s .dropSender
        { s with
          queue := s.queue.removeSender
          phase := s.phase.notify }
  | wake (s : ClientChannel) (h : s.phase = .waiting) :
      Step s .wake { s with phase := .receiving }
  | receive (s : ClientChannel) (h : s.phase = .receiving) : Step s .receive s.receive
  | write (s : ClientChannel) (item : ClientWriteItem) (succeeds : Bool)
      (h : s.phase = .writing item) : Step s (.write succeeds) (s.write item succeeds)
  | close (s : ClientChannel) (h : s.phase = .closing) :
      Step s .close
        { s with
          queue := s.queue.closeWriter
          phase := .exited }

end ClientChannel

end Ork3.Server
