import Ork3.Library.Run
import Ork3.Library.NumberedLog

/-!
# The event hub

`api/event_hub.rs` and the event subscriptions of `api/subscriptions.rs`. Producers push events into
a bounded ring; each subscription polls it from its own thread, one locked read at a time, and
writes what a poll returns to its connection.
-/

namespace Ork3.Api

open Ork3.Library

inductive EventKind
  | workspaceCreated | workspaceUpdated | workspaceMetadataUpdated | workspaceClosed
  | workspaceRenamed | workspaceMoved | workspaceFocused
  | worktreeCreated | worktreeOpened | worktreeRemoved
  | tabCreated | tabClosed | tabRenamed | tabMoved | tabFocused
  | paneCreated | paneClosed | paneUpdated | paneFocused | paneMoved
  | paneOutputChanged | paneExited | paneAgentDetected | paneAgentStatusChanged
  | layoutUpdated | projectSnapshotUpdated
  deriving DecidableEq, Repr

section
variable {δ ν : Type*}

/-- An event with its kind; `δ` is the data its kind carries. -/
structure EventEnvelope (δ : Type*) where
  event : EventKind
  data : δ
  deriving DecidableEq

/-! ### The hub -/

structure EventHubState (δ : Type*) where
  nextSequence : Nat
  events : List (Nat × EventEnvelope δ)

namespace EventHubState

def maxEvents : Nat := 512

def empty : EventHubState δ where
  nextSequence := 0
  events := []

def push (state : EventHubState δ) (event : EventEnvelope δ) : EventHubState δ :=
  let sequence := state.nextSequence + 1
  let events := state.events ++ [(sequence, event)]
  let overflow := events.length - maxEvents
  { nextSequence := sequence
    events := events.drop overflow }

def eventsAfter (state : EventHubState δ) (sequence : Nat) : List (Nat × EventEnvelope δ) :=
  state.events.filter fun entry => sequence < entry.1

def currentSequence (state : EventHubState δ) : Nat := state.nextSequence

end EventHubState

/-! ### Subscriptions -/

structure ActiveEventSubscription where
  eventKind : EventKind
  lastSequence : Nat
  deriving DecidableEq

namespace ActiveEventSubscription

def new (kind : EventKind) : ActiveEventSubscription where
  eventKind := kind
  lastSequence := 0

/-- The loop of a poll over the events that it read. `toValue` encodes an event as JSON. -/
def pollEvents (toValue : EventEnvelope δ → Option ν) (subscription : ActiveEventSubscription) :
    List (Nat × EventEnvelope δ) → Option ν × ActiveEventSubscription
  | [] => (none, subscription)
  | (sequence, event) :: rest =>
    let subscription := { subscription with lastSequence := sequence }
    if event.event = subscription.eventKind then (toValue event, subscription)
    else pollEvents toValue subscription rest

def poll (toValue : EventEnvelope δ → Option ν) (subscription : ActiveEventSubscription)
    (hub : EventHubState δ) : Option ν × ActiveEventSubscription :=
  pollEvents toValue subscription (hub.eventsAfter subscription.lastSequence)

end ActiveEventSubscription

/-! ### Producers and subscribers together -/

/-- A subscription with what was written to its connection so far. -/
structure Subscriber (ν : Type*) where
  subscription : ActiveEventSubscription
  delivered : List ν

/-- The hub, its subscribers and, as a record of the run, every event pushed so far. -/
structure EventStreams (δ ν : Type*) where
  hub : EventHubState δ
  subscribers : List (Subscriber ν)
  pushed : List (EventEnvelope δ)

inductive StreamAction (δ : Type*)
  | push (event : EventEnvelope δ)
  | subscribe (kind : EventKind)
  | poll (index : Nat)

namespace EventStreams

def start : EventStreams δ ν where
  hub := .empty
  subscribers := []
  pushed := []

/-- One locked access to the hub, or the start of a subscription. -/
inductive Step (toValue : EventEnvelope δ → Option ν) :
    EventStreams δ ν → StreamAction δ → EventStreams δ ν → Prop
  | push (s : EventStreams δ ν) (event : EventEnvelope δ) :
      Step toValue s (.push event)
        { s with
          hub := s.hub.push event
          pushed := s.pushed ++ [event] }
  | subscribe (s : EventStreams δ ν) (kind : EventKind) :
      Step toValue s (.subscribe kind)
        { s with subscribers := s.subscribers ++ [⟨.new kind, []⟩] }
  | poll (s : EventStreams δ ν) (index : Nat) (subscriber : Subscriber ν)
      (h : s.subscribers[index]? = some subscriber) :
      Step toValue s (.poll index)
        { s with
          subscribers := s.subscribers.set index
            ⟨(subscriber.subscription.poll toValue s.hub).2,
              subscriber.delivered ++
                (subscriber.subscription.poll toValue s.hub).1.toList⟩ }

end EventStreams

end

end Ork3.Api
