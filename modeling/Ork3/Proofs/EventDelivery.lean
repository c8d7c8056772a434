import Ork3.Model.EventHub

/-!
# Delivery of hub events

The events of the hub are the window of everything pushed, numbered by their sequences. A poll reads
what follows the last sequence of its subscription in the window and stops at the first event of its
kind.
-/

namespace Ork3.Api

open Ork3.Library

section
variable {δ ν : Type*} {toValue : EventEnvelope δ → Option ν}

/-! ### The window -/

/-- The hub after these events were pushed. -/
def EventHubState.Holds (hub : EventHubState δ) (pushed : List (EventEnvelope δ)) : Prop :=
  hub.nextSequence = pushed.length ∧
    hub.events = window EventHubState.maxEvents (numberedFrom 0 pushed)

lemma EventHubState.Holds.push {hub : EventHubState δ} {pushed : List (EventEnvelope δ)}
    (h : hub.Holds pushed) (event : EventEnvelope δ) :
    (hub.push event).Holds (pushed ++ [event]) := by
  obtain ⟨hnext, hevents⟩ := h
  constructor
  · simp [EventHubState.push, hnext]
  · have hlog : numberedFrom 0 (pushed ++ [event]) =
        numberedFrom 0 pushed ++ [(pushed.length + 1, event)] := by
      rw [numberedFrom_append, Nat.zero_add]
      rfl
    rw [hlog, window_push, ← hevents]
    unfold EventHubState.push window
    rw [hnext]

namespace EventStreams

/-- The event with this sequence. -/
def eventAt (s : EventStreams δ ν) (sequence : Nat) : Option (EventEnvelope δ) :=
  if sequence = 0 then none else s.pushed[sequence - 1]?

/-- The event with this sequence was pushed and is of this kind. -/
def Matches (s : EventStreams δ ν) (kind : EventKind) (sequence : Nat) : Prop :=
  ∃ event, s.eventAt sequence = some event ∧ event.event = kind

def InWindow (s : EventStreams δ ν) (sequence : Nat) : Prop :=
  ∃ event, (sequence, event) ∈ s.hub.events

/-- The first sequence that a subscription at `last` can still read, less one. -/
def readable (s : EventStreams δ ν) (last : Nat) : Nat :=
  max last (s.pushed.length - EventHubState.maxEvents)

lemma eventAt_some {s : EventStreams δ ν} {n : Nat} {event : EventEnvelope δ} :
    s.eventAt n = some event ↔ 0 < n ∧ s.pushed[n - 1]? = some event := by
  unfold eventAt
  split <;> simp <;> omega

lemma Matches.le {s : EventStreams δ ν} {kind : EventKind} {n : Nat} (h : s.Matches kind n) :
    0 < n ∧ n ≤ s.pushed.length := by
  obtain ⟨event, hevent, -⟩ := h
  obtain ⟨hn, hat⟩ := eventAt_some.mp hevent
  have := (List.getElem?_eq_some_iff.mp hat).1
  omega

lemma inWindow_iff {s : EventStreams δ ν} (h : s.hub.Holds s.pushed) {n : Nat} :
    s.InWindow n ↔ s.pushed.length - EventHubState.maxEvents < n ∧ n ≤ s.pushed.length := by
  unfold InWindow
  rw [h.2, window, length_numberedFrom, drop_numberedFrom]
  generalize EventHubState.maxEvents = cap
  simp only [mem_numberedFrom, List.getElem?_drop]
  constructor
  · rintro ⟨event, hn, hat⟩
    have := (List.getElem?_eq_some_iff.mp hat).1
    omega
  · rintro ⟨hn, hle⟩
    refine ⟨s.pushed[n - 1], by omega, ?_⟩
    rw [List.getElem?_eq_some_iff]
    exact ⟨by omega, by congr 1; omega⟩

/-! ### One poll -/

/-- What the loop of a poll does to events numbered in a row: it stops at the first of its kind, or
reads them all. -/
lemma pollEvents_spec (toValue : EventEnvelope δ → Option ν)
    (subscription : ActiveEventSubscription) (b : Nat)
    (events : List (EventEnvelope δ)) :
    (∃ i event, events[i]? = some event ∧ event.event = subscription.eventKind ∧
      (∀ j < i, ∀ e, events[j]? = some e → e.event ≠ subscription.eventKind) ∧
      subscription.pollEvents toValue (numberedFrom b events) =
        (toValue event, { subscription with lastSequence := b + 1 + i })) ∨
    ((∀ e ∈ events, e.event ≠ subscription.eventKind) ∧
      subscription.pollEvents toValue (numberedFrom b events) =
        (none, { subscription with
          lastSequence := if events = [] then subscription.lastSequence
            else b + events.length })) := by
  induction events generalizing b subscription with
  | nil => exact .inr ⟨by simp, rfl⟩
  | cons event rest ih =>
    rw [numberedFrom]
    unfold ActiveEventSubscription.pollEvents
    dsimp only
    by_cases hkind : event.event = subscription.eventKind
    · left
      refine ⟨0, event, rfl, hkind, by simp, ?_⟩
      rw [if_pos hkind]
    · rw [if_neg hkind]
      obtain ⟨i, e, hi, he, hbefore, hpoll⟩ | ⟨hnone, hpoll⟩ :=
        ih { subscription with lastSequence := b + 1 } (b + 1)
      · left
        refine ⟨i + 1, e, by simpa using hi, he, ?_, ?_⟩
        · intro j hj e' he'
          cases j with
          | zero =>
            obtain rfl : event = e' := by simpa using he'
            exact hkind
          | succ j => exact hbefore j (by omega) e' (by simpa using he')
        · have hlast : b + 1 + 1 + i = b + 1 + (i + 1) := by omega
          rw [hpoll, hlast]
      · right
        refine ⟨?_, ?_⟩
        · intro e he
          rcases List.mem_cons.mp he with rfl | he
          · exact hkind
          · exact hnone e he
        · rw [hpoll]
          simp only [reduceCtorEq, if_false, List.length_cons]
          congr 2
          split
          · next h => simp [h]
          · omega

/-- A poll delivers the first pending event of its kind; without one it reaches the end. -/
lemma poll_spec (toValue : EventEnvelope δ → Option ν) {s : EventStreams δ ν} (h : s.hub.Holds s.pushed)
    {subscription : ActiveEventSubscription}
    (hlast : subscription.lastSequence ≤ s.pushed.length) :
    (∃ n event, s.readable subscription.lastSequence < n ∧ s.eventAt n = some event ∧
      event.event = subscription.eventKind ∧
      (∀ m, s.readable subscription.lastSequence < m → m < n →
        ¬s.Matches subscription.eventKind m) ∧
      subscription.poll toValue s.hub =
        (toValue event, { subscription with lastSequence := n })) ∨
    ((∀ m, s.readable subscription.lastSequence < m →
        ¬s.Matches subscription.eventKind m) ∧
      subscription.poll toValue s.hub =
        (none, { subscription with lastSequence := s.pushed.length })) := by
  have hread : s.hub.eventsAfter subscription.lastSequence =
      numberedFrom (s.readable subscription.lastSequence)
        (s.pushed.drop (s.readable subscription.lastSequence)) := by
    unfold EventHubState.eventsAfter readable
    rw [h.2]
    exact window_after _ _ _
  have hle : s.readable subscription.lastSequence ≤ s.pushed.length := by
    unfold readable
    omega
  generalize hb : s.readable subscription.lastSequence = b at hread hle
  -- An event after the readable bound is an event of the suffix that the poll reads.
  have hmatch : ∀ m, b < m → s.Matches subscription.eventKind m →
      ∃ e, (s.pushed.drop b)[m - b - 1]? = some e ∧ e.event = subscription.eventKind := by
    rintro m hm ⟨e, he, hkind⟩
    obtain ⟨-, hat⟩ := eventAt_some.mp he
    refine ⟨e, ?_, hkind⟩
    rw [List.getElem?_drop, ← hat]
    congr 1
    omega
  unfold ActiveEventSubscription.poll
  rw [hread]
  obtain ⟨i, event, hi, hkind, hbefore, hpoll⟩ | ⟨hnone, hpoll⟩ :=
    pollEvents_spec toValue subscription b (s.pushed.drop b)
  · left
    refine ⟨b + 1 + i, event, by omega, ?_, hkind, ?_, hpoll⟩
    · rw [eventAt_some]
      refine ⟨by omega, ?_⟩
      rw [List.getElem?_drop] at hi
      rw [← hi]
      congr 1
      omega
    · intro m hm hlt hmm
      obtain ⟨e, he, hek⟩ := hmatch m hm hmm
      exact hbefore _ (by omega) e he hek
  · right
    refine ⟨?_, ?_⟩
    · intro m hm hmm
      obtain ⟨e, he, hek⟩ := hmatch m hm hmm
      exact hnone e (List.mem_of_getElem? he) hek
    · rw [hpoll]
      congr 2
      have hpos : 0 < EventHubState.maxEvents := by decide
      unfold readable at hb
      generalize EventHubState.maxEvents = cap at hb hpos
      split
      · next hnil =>
        have := List.drop_eq_nil_iff.mp hnil
        omega
      · rw [List.length_drop]
        omega

/-! ### Runs -/

/-- The first event of its kind that the subscription has not reached and the window still holds. -/
def FirstPending (s : EventStreams δ ν) (subscription : ActiveEventSubscription) (n : Nat) : Prop :=
  subscription.lastSequence < n ∧ s.InWindow n ∧ s.Matches subscription.eventKind n ∧
    ∀ m, subscription.lastSequence < m → m < n → s.InWindow m →
      ¬s.Matches subscription.eventKind m

/-- What a subscriber was delivered are the events with these sequences, each of its kind. -/
structure DeliveredAt (toValue : EventEnvelope δ → Option ν) (s : EventStreams δ ν)
    (subscriber : Subscriber ν) (sequences : List Nat) : Prop where
  increasing : sequences.Pairwise (· < ·)
  values : List.Forall₂ (fun n value => ∃ event, s.eventAt n = some event ∧
    event.event = subscriber.subscription.eventKind ∧ toValue event = some value)
    sequences subscriber.delivered
  reached : ∀ n ∈ sequences, n ≤ subscriber.subscription.lastSequence

/-- At some moment of the run the event had left the window and the subscription, already started,
had not reached it. -/
def EvictedUnreached (toValue : EventEnvelope δ → Option ν) (actions : List (StreamAction δ))
    (s : EventStreams δ ν) (index n : Nat) : Prop :=
  ∃ before after m subscriber, actions = before ++ after ∧
    Run (Step toValue) start before m ∧ Run (Step toValue) m after s ∧
    m.subscribers[index]? = some subscriber ∧ subscriber.subscription.lastSequence < n ∧
    n ≤ m.pushed.length ∧ ¬m.InWindow n

lemma EvictedUnreached.step {actions : List (StreamAction δ)} {s t : EventStreams δ ν}
    {action : StreamAction δ} {index n : Nat} (h : EvictedUnreached toValue actions s index n)
    (hstep : Step toValue s action t) :
    EvictedUnreached toValue (actions ++ [action]) t index n := by
  obtain ⟨before, after, m, subscriber, rfl, hbefore, hafter, hrest⟩ := h
  refine ⟨before, after ++ [action], m, subscriber, ?_, hbefore, hafter.snoc hstep, hrest⟩
  rw [List.append_assoc]

/-- What holds of a subscriber after a run. -/
structure Served (toValue : EventEnvelope δ → Option ν) (actions : List (StreamAction δ))
    (s : EventStreams δ ν) (index : Nat) (subscriber : Subscriber ν) : Prop where
  last_le : subscriber.subscription.lastSequence ≤ s.pushed.length
  deliveries : ∃ sequences, DeliveredAt toValue s subscriber sequences ∧
    ∀ n, s.Matches subscriber.subscription.eventKind n →
      n ∈ sequences ∨ subscriber.subscription.lastSequence < n ∨
        EvictedUnreached toValue actions s index n

/-- The hub holds the window of what was pushed and every subscriber is served. -/
structure Serving (toValue : EventEnvelope δ → Option ν) (actions : List (StreamAction δ))
    (s : EventStreams δ ν) : Prop where
  holds : s.hub.Holds s.pushed
  served : ∀ index subscriber, s.subscribers[index]? = some subscriber →
    Served toValue actions s index subscriber

lemma DeliveredAt.of_pushed {s t : EventStreams δ ν} {subscriber : Subscriber ν}
    {sequences : List Nat} (h : DeliveredAt toValue s subscriber sequences)
    (hpushed : ∀ n event, s.eventAt n = some event → t.eventAt n = some event) :
    DeliveredAt toValue t subscriber sequences where
  increasing := h.increasing
  values := h.values.imp fun _ _ ⟨event, hat, hrest⟩ => ⟨event, hpushed _ _ hat, hrest⟩
  reached := h.reached

lemma eventAt_of_append {s t : EventStreams δ ν} {more : List (EventEnvelope δ)}
    (h : t.pushed = s.pushed ++ more) {n : Nat} (hn : n ≤ s.pushed.length) :
    t.eventAt n = s.eventAt n := by
  unfold eventAt
  split
  · rfl
  · rw [h, List.getElem?_append_left (by omega)]

/-- A subscriber that a step does not touch stays served. -/
lemma Served.step {actions : List (StreamAction δ)} {s t : EventStreams δ ν}
    {action : StreamAction δ} {index : Nat} {subscriber : Subscriber ν}
    {more : List (EventEnvelope δ)} (h : Served toValue actions s index subscriber)
    (hstep : Step toValue s action t) (hpushed : t.pushed = s.pushed ++ more) :
    Served toValue (actions ++ [action]) t index subscriber := by
  obtain ⟨hle, sequences, hdelivered, hrest⟩ := h
  have hlen : t.pushed.length = s.pushed.length + more.length := by
    rw [hpushed, List.length_append]
  refine ⟨by omega, sequences, ?_, ?_⟩
  · apply hdelivered.of_pushed
    intro n event hevent
    have hn : s.Matches event.event n := ⟨event, hevent, rfl⟩
    rw [eventAt_of_append hpushed hn.le.2]
    exact hevent
  · intro n hn
    by_cases hold : n ≤ s.pushed.length
    · have hmatch : s.Matches subscriber.subscription.eventKind n := by
        unfold Matches at hn ⊢
        rwa [← eventAt_of_append hpushed hold]
      obtain hin | hlt | hev := hrest n hmatch
      · exact .inl hin
      · exact .inr (.inl hlt)
      · exact .inr (.inr (hev.step hstep))
    · exact .inr (.inl (by omega))

/-- A new subscription has every event before it. -/
lemma served_new {actions : List (StreamAction δ)} {s : EventStreams δ ν} {index : Nat}
    (kind : EventKind) : Served toValue actions s index ⟨.new kind, []⟩ where
  last_le := Nat.zero_le _
  deliveries :=
    ⟨[], ⟨.nil, .nil, by simp⟩, fun _ hn => .inr (.inl hn.le.1)⟩

/-- What a subscriber has not reached is in the window, or evicted before it was reached. -/
lemma evicted_of_le_readable {actions : List (StreamAction δ)} {s t : EventStreams δ ν}
    {action : StreamAction δ} {index n : Nat} {subscriber : Subscriber ν}
    (hrun : Run (Step toValue) start actions s) (hholds : s.hub.Holds s.pushed)
    (hsub : s.subscribers[index]? = some subscriber) (hstep : Step toValue s action t)
    (hn : n ≤ s.pushed.length) (hlast : subscriber.subscription.lastSequence < n)
    (hread : n ≤ s.readable subscriber.subscription.lastSequence) :
    EvictedUnreached toValue (actions ++ [action]) t index n := by
  refine ⟨actions, [action], s, subscriber, rfl, hrun, .cons hstep (.nil t), hsub, hlast, hn, ?_⟩
  rw [inWindow_iff hholds]
  unfold readable at hread
  omega

/-- A poll keeps its subscriber served. -/
lemma Served.poll {actions : List (StreamAction δ)} {s t : EventStreams δ ν} {index : Nat}
    {subscriber : Subscriber ν} (hvalue : ∀ event, (toValue event).isSome)
    (hrun : Run (Step toValue) start actions s) (hholds : s.hub.Holds s.pushed)
    (hsub : s.subscribers[index]? = some subscriber) (hstep : Step toValue s (.poll index) t)
    (hpushed : t.pushed = s.pushed) (h : Served toValue actions s index subscriber) :
    Served toValue (actions ++ [.poll index]) t index
      ⟨(subscriber.subscription.poll toValue s.hub).2,
        subscriber.delivered ++ (subscriber.subscription.poll toValue s.hub).1.toList⟩ := by
  obtain ⟨hle, sequences, hdelivered, hrest⟩ := h
  have heventAt : ∀ n, t.eventAt n = s.eventAt n := fun n => by unfold eventAt; rw [hpushed]
  have hmatches : ∀ kind n, t.Matches kind n ↔ s.Matches kind n := fun kind n => by
    unfold Matches
    rw [heventAt]
  have hdelivered : DeliveredAt toValue t subscriber sequences :=
    hdelivered.of_pushed fun n event hevent => (heventAt n).trans hevent
  have hread : subscriber.subscription.lastSequence ≤
      s.readable subscriber.subscription.lastSequence := le_max_left _ _
  -- What was reached, missed or still ahead before the poll, when it is not read by it.
  have hbehind : ∀ n, s.Matches subscriber.subscription.eventKind n →
      n ≤ s.readable subscriber.subscription.lastSequence →
      n ∈ sequences ∨ EvictedUnreached toValue (actions ++ [.poll index]) t index n := by
    intro n hn hle
    obtain hin | hlt | hev := hrest n hn
    · exact .inl hin
    · exact .inr (evicted_of_le_readable hrun hholds hsub hstep hn.le.2 hlt hle)
    · exact .inr (hev.step hstep)
  obtain ⟨n₀, event, hn₀, hat, hkind, hbetween, hpoll⟩ | ⟨hnone, hpoll⟩ :=
    poll_spec toValue hholds hle
  · obtain ⟨value, hval⟩ := Option.isSome_iff_exists.mp (hvalue event)
    have hmatch : s.Matches subscriber.subscription.eventKind n₀ := ⟨event, hat, hkind⟩
    rw [hpoll, hval]
    refine ⟨?_, sequences ++ [n₀], ⟨?_, ?_, ?_⟩, ?_⟩
    · rw [hpushed]
      exact hmatch.le.2
    · rw [List.pairwise_append]
      refine ⟨hdelivered.increasing, List.pairwise_singleton _ _, ?_⟩
      intro n hn m hm
      obtain rfl := List.mem_singleton.mp hm
      have := hdelivered.reached n hn
      omega
    · exact List.rel_append hdelivered.values
        (.cons ⟨event, by rw [heventAt, hat], hkind, hval⟩ .nil)
    · intro n hn
      rcases List.mem_append.mp hn with hn | hn
      · have := hdelivered.reached n hn
        dsimp only
        omega
      · exact (List.mem_singleton.mp hn).le
    · intro n hn
      have hn := (hmatches _ _).mp hn
      rcases Nat.lt_trichotomy n n₀ with hlt | rfl | hlt
      · have hle : n ≤ s.readable subscriber.subscription.lastSequence :=
          not_lt.mp fun hr => hbetween n hr hlt hn
        rcases hbehind n hn hle with hin | hev
        · exact .inl (List.mem_append_left _ hin)
        · exact .inr (.inr hev)
      · exact .inl (List.mem_append_right _ List.mem_cons_self)
      · exact .inr (.inl hlt)
  · rw [hpoll]
    refine ⟨?_, sequences, ⟨hdelivered.increasing, ?_, ?_⟩, ?_⟩
    · exact hpushed.symm ▸ le_rfl
    · simpa using hdelivered.values
    · intro n hn
      exact (hdelivered.reached n hn).trans hle
    · intro n hn
      have hn := (hmatches _ _).mp hn
      have hle : n ≤ s.readable subscriber.subscription.lastSequence :=
        not_lt.mp fun hr => hnone n hr hn
      rcases hbehind n hn hle with hin | hev
      · exact .inl hin
      · exact .inr (.inr hev)

/-- Each step keeps every subscriber served. -/
lemma Serving.step {actions : List (StreamAction δ)} {s t : EventStreams δ ν}
    {action : StreamAction δ} (hvalue : ∀ event, (toValue event).isSome)
    (hrun : Run (Step toValue) start actions s) (h : Serving toValue actions s)
    (hstep : Step toValue s action t) : Serving toValue (actions ++ [action]) t := by
  cases hstep with
  | push event =>
    refine ⟨h.holds.push event, ?_⟩
    intro index subscriber hsub
    exact (h.served index subscriber hsub).step (Step.push s event) rfl
  | subscribe kind =>
    refine ⟨h.holds, ?_⟩
    intro index subscriber hsub
    dsimp only at hsub
    by_cases hold : index < s.subscribers.length
    · rw [List.getElem?_append_left hold] at hsub
      exact (h.served index subscriber hsub).step (Step.subscribe s kind) (List.append_nil _).symm
    · rw [List.getElem?_append_right (by omega)] at hsub
      obtain ⟨hlt, rfl⟩ := List.getElem?_eq_some_iff.mp hsub
      simp only [List.getElem_singleton]
      exact served_new kind
  | poll i subscriber hsub =>
    refine ⟨h.holds, ?_⟩
    intro index subscriber' hsub'
    dsimp only at hsub'
    have hstep : Step toValue s (.poll i) _ := .poll s i subscriber hsub
    by_cases hi : i = index
    · subst hi
      obtain ⟨hlt, -⟩ := List.getElem?_eq_some_iff.mp hsub
      rw [List.getElem?_set_self hlt] at hsub'
      obtain rfl := Option.some.inj hsub'
      exact (h.served i subscriber hsub).poll hvalue hrun h.holds hsub hstep rfl
    · rw [List.getElem?_set_ne hi] at hsub'
      exact (h.served index subscriber' hsub').step hstep (List.append_nil _).symm

lemma serving_start : Serving toValue [] (start : EventStreams δ ν) where
  holds := ⟨rfl, by simp [start, EventHubState.empty, window, numberedFrom]⟩
  served := by
    intro index subscriber hsub
    simp [start] at hsub

/-- After every run every subscriber is served. -/
lemma serving_of_run (hvalue : ∀ event, (toValue event).isSome)
    {actions : List (StreamAction δ)} {s : EventStreams δ ν}
    (hrun : Run (Step toValue) start actions s) : Serving toValue actions s := by
  have hstep : ∀ (os : List (StreamAction δ)) (s : EventStreams δ ν) (o : StreamAction δ)
      (t : EventStreams δ ν), Run (Step toValue) start os s ∧ Serving toValue os s →
      Step toValue s o t →
      Run (Step toValue) start (os ++ [o]) t ∧ Serving toValue (os ++ [o]) t :=
    fun os s o t hinv hst => ⟨hinv.1.snoc hst, hinv.2.step hvalue hinv.1 hst⟩
  exact (Run.history_invariant hstep hrun ⟨.nil _, serving_start⟩).2

/-- Whatever producers push and whenever subscriptions start and poll: a subscription was delivered
events of its kind, each once and in the order they were pushed; an event of its kind that it was
not delivered lies ahead of it, or had left the window before it was reached; and its next poll
delivers the first event of its kind that is ahead of it in the window. -/
theorem events_delivered_once_in_order (hvalue : ∀ event, (toValue event).isSome)
    {actions : List (StreamAction δ)} {s : EventStreams δ ν}
    (hrun : Run (Step toValue) start actions s) {index : Nat} {subscriber : Subscriber ν}
    (hsub : s.subscribers[index]? = some subscriber) :
    (∃ sequences, DeliveredAt toValue s subscriber sequences ∧
      ∀ n, s.Matches subscriber.subscription.eventKind n →
        n ∈ sequences ∨ subscriber.subscription.lastSequence < n ∨
          EvictedUnreached toValue actions s index n) ∧
    (∀ n, s.FirstPending subscriber.subscription n →
      ∃ event value, s.eventAt n = some event ∧ toValue event = some value ∧
        subscriber.subscription.poll toValue s.hub =
          (some value, { subscriber.subscription with lastSequence := n })) ∧
    ((¬∃ n, s.FirstPending subscriber.subscription n) →
      subscriber.subscription.poll toValue s.hub =
        (none, { subscriber.subscription with lastSequence := s.pushed.length })) := by
  have hserving := serving_of_run hvalue hrun
  have hserved := hserving.served index subscriber hsub
  have hwindow : ∀ n, s.Matches subscriber.subscription.eventKind n →
      (s.readable subscriber.subscription.lastSequence < n ↔
        subscriber.subscription.lastSequence < n ∧ s.InWindow n) := by
    intro n hn
    rw [inWindow_iff hserving.holds, readable]
    have := hn.le
    omega
  refine ⟨hserved.deliveries, ?_⟩
  obtain ⟨n₀, event, hn₀, hat, hkind, hbetween, hpoll⟩ | ⟨hnone, hpoll⟩ :=
    poll_spec toValue hserving.holds hserved.last_le
  · have hmatch : s.Matches subscriber.subscription.eventKind n₀ := ⟨event, hat, hkind⟩
    obtain ⟨hlast, hin⟩ := (hwindow n₀ hmatch).mp hn₀
    have hfirst : ∀ n, s.FirstPending subscriber.subscription n → n = n₀ := by
      rintro n ⟨hn, hnin, hnm, hbefore⟩
      rcases Nat.lt_trichotomy n n₀ with hlt | heq | hlt
      · exact absurd hnm (hbetween n ((hwindow n hnm).mpr ⟨hn, hnin⟩) hlt)
      · exact heq
      · exact absurd hmatch (hbefore n₀ hlast hlt hin)
    refine ⟨?_, ?_⟩
    · intro n hn
      obtain rfl := hfirst n hn
      obtain ⟨value, hval⟩ := Option.isSome_iff_exists.mp (hvalue event)
      exact ⟨event, value, hat, hval, by rw [hpoll, hval]⟩
    · intro hno
      refine absurd ⟨n₀, hlast, hin, hmatch, ?_⟩ hno
      intro m hm hlt hmin hmm
      exact hbetween m ((hwindow m hmm).mpr ⟨hm, hmin⟩) hlt hmm
  · refine ⟨?_, fun _ => hpoll⟩
    rintro n ⟨hn, hnin, hnm, -⟩
    exact absurd hnm (hnone n ((hwindow n hnm).mpr ⟨hn, hnin⟩))

/-- A subscription to created panes, polled after a tab and a pane were created. -/
theorem created_pane_delivered :
    ∃ (s : EventStreams Nat Nat) (subscriber : Subscriber Nat),
      Run (Step fun event => some event.data) start
        [.subscribe .paneCreated, .push ⟨.tabCreated, 1⟩, .push ⟨.paneCreated, 2⟩, .poll 0] s ∧
      s.subscribers[0]? = some subscriber ∧ subscriber.delivered = [2] ∧
      ∃ sequences, DeliveredAt (fun event => some event.data) s subscriber sequences := by
  have hsubscribe : Step (fun event : EventEnvelope Nat => some event.data) start
      (.subscribe .paneCreated) _ := .subscribe start .paneCreated
  have hrun := Run.cons hsubscribe (.cons (.push _ ⟨.tabCreated, 1⟩)
    (.cons (.push _ ⟨.paneCreated, 2⟩) (.cons (.poll _ 0 _ rfl) (.nil _))))
  refine ⟨_, _, hrun, rfl, by decide +kernel, ?_⟩
  obtain ⟨⟨sequences, hdelivered, -⟩, -⟩ :=
    @events_delivered_once_in_order Nat Nat _ (fun event => rfl) _ _ hrun 0 _ rfl
  exact ⟨sequences, hdelivered⟩

end EventStreams

end

end Ork3.Api
