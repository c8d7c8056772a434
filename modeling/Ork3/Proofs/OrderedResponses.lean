import Ork3.Model.OrderedResponses

/-!
# Responses stand where their queries stand

A write is a run of actions: slices of the chunk that follow each other, and between them the answers,
each at the place where its query ends.
-/

namespace Ork3.Pane

open Ork3.Library
open Ork3.Input (RgbColor DefaultColorKind)

inductive WriteAction
  | slice (bytes : List UInt8)
  | answer (event : OrderedPtyResponseEvent)

/-- The bytes that the actions pass to the terminal from the chunk. -/
def sliceBytes (actions : List WriteAction) : List UInt8 :=
  actions.flatMap fun
    | .slice bytes => bytes
    | .answer _ => []

def answered (actions : List WriteAction) : List OrderedPtyResponseEvent :=
  actions.filterMap fun
    | .slice _ => none
    | .answer event => some event

section
variable {T : Type} (calls : TerminalCalls T)

/-- One action, and the responses that it collects: what the terminal answers to a slice, or what
answers the query of an event. -/
def act (pane : GhosttyPane T) : WriteAction → GhosttyPane T × List (List UInt8)
  | .slice bytes =>
    let (drained, pane) := (pane.writeTerminal calls bytes).drainPendingPtyResponses
    (pane, drained)
  | .answer event => pane.respondTo calls event

/-- The actions in order, with what they collect. -/
def runActions (pane : GhosttyPane T) : List WriteAction → GhosttyPane T × List (List UInt8)
  | [] => (pane, [])
  | action :: actions =>
    ((runActions (act calls pane action).1 actions).1,
      (act calls pane action).2 ++ (runActions (act calls pane action).1 actions).2)

/-- Each answer stands where the bytes up to its event have been written, and no others. -/
def AnsweredInPlace (bytes : List UInt8) (actions : List WriteAction) : Prop :=
  ∀ before event behind, actions = before ++ .answer event :: behind →
    sliceBytes before = bytes.take event.endOffset

variable {calls} {pane : GhosttyPane T} {bytes : List UInt8} {actions more : List WriteAction}
  {events : List OrderedPtyResponseEvent} {s : GhosttyPane.WriteState T}

lemma runActions_append (pane : GhosttyPane T) (actions more : List WriteAction) :
    runActions calls pane (actions ++ more) =
      ((runActions calls (runActions calls pane actions).1 more).1,
        (runActions calls pane actions).2 ++
          (runActions calls (runActions calls pane actions).1 more).2) := by
  induction actions generalizing pane with
  | nil => rfl
  | cons action actions ih =>
    rw [List.cons_append, runActions, runActions, ih, List.append_assoc]

lemma sliceBytes_append (actions more : List WriteAction) :
    sliceBytes (actions ++ more) = sliceBytes actions ++ sliceBytes more :=
  List.flatMap_append

lemma answered_append (actions more : List WriteAction) :
    answered (actions ++ more) = answered actions ++ answered more :=
  List.filterMap_append

/-- An answer at the end keeps the others in place. -/
lemma AnsweredInPlace.concat (h : AnsweredInPlace bytes actions) {event : OrderedPtyResponseEvent}
    (hplace : sliceBytes actions = bytes.take event.endOffset) :
    AnsweredInPlace bytes (actions ++ [.answer event]) := by
  intro before event' behind heq
  rcases List.eq_nil_or_concat behind with rfl | ⟨behind, last, rfl⟩
  · obtain ⟨rfl, hlast⟩ := List.append_inj' heq rfl
    cases hlast
    exact hplace
  · rw [List.concat_eq_append, ← List.cons_append, ← List.append_assoc] at heq
    obtain ⟨rfl, -⟩ := List.append_inj' heq rfl
    exact h before event' behind rfl

lemma AnsweredInPlace.concat_slice (h : AnsweredInPlace bytes actions) (slice : List UInt8) :
    AnsweredInPlace bytes (actions ++ [.slice slice]) := by
  intro before event behind heq
  rcases List.eq_nil_or_concat behind with rfl | ⟨behind, last, rfl⟩
  · obtain ⟨-, hlast⟩ := List.append_inj' heq rfl
    cases hlast
  · rw [List.concat_eq_append, ← List.cons_append, ← List.append_assoc] at heq
    obtain ⟨rfl, -⟩ := List.append_inj' heq rfl
    exact h before event behind rfl

/-- The loop's variables after some actions from this pane and these responses. -/
structure Acted (calls : TerminalCalls T) (pane : GhosttyPane T) (responses : List (List UInt8))
    (bytes : List UInt8) (actions : List WriteAction) (s : GhosttyPane.WriteState T) : Prop where
  state : s.pane = (runActions calls pane actions).1
  responses : s.terminalResponses = responses ++ (runActions calls pane actions).2
  written : sliceBytes actions = bytes.take s.written
  le : s.written ≤ bytes.length
  inPlace : AnsweredInPlace bytes actions

/-- A further part of the chunk. -/
lemma Acted.slice {responses : List (List UInt8)} (h : Acted calls pane responses bytes actions s)
    {stop : Nat} (hstart : s.written ≤ stop) (hstop : stop ≤ bytes.length) :
    Acted calls pane responses bytes
      (actions ++ [.slice ((bytes.take stop).drop s.written)])
      (GhosttyPane.writeSlice calls s ((bytes.take stop).drop s.written) stop) := by
  have hrun := @runActions_append _ calls pane actions
    [.slice ((bytes.take stop).drop s.written)]
  rw [← h.state] at hrun
  refine ⟨?_, ?_, ?_, hstop, h.inPlace.concat_slice _⟩
  · rw [hrun]
    rfl
  · rw [hrun, ← List.append_assoc, ← h.responses]
    change _ = _ ++ (_ ++ [])
    rw [List.append_nil]
    rfl
  · rw [sliceBytes_append, h.written]
    change _ ++ ((bytes.take stop).drop s.written ++ []) = bytes.take stop
    have hsplit := List.take_append_drop s.written (bytes.take stop)
    rw [List.take_take, Nat.min_eq_left hstart] at hsplit
    rw [List.append_nil]
    exact hsplit

/-- An answer where its query ends. -/
lemma Acted.answer {responses : List (List UInt8)} (h : Acted calls pane responses bytes actions s)
    {event : OrderedPtyResponseEvent} (hwritten : s.written = min event.endOffset bytes.length) :
    Acted calls pane responses bytes (actions ++ [.answer event])
      { s with
        pane := (s.pane.respondTo calls event).1
        terminalResponses := s.terminalResponses ++ (s.pane.respondTo calls event).2 } := by
  have hrun := @runActions_append _ calls pane actions [.answer event]
  rw [← h.state] at hrun
  have hplace : sliceBytes actions = bytes.take event.endOffset := by
    rw [h.written, hwritten, List.take_eq_take_iff]
    omega
  refine ⟨?_, ?_, ?_, h.le, h.inPlace.concat hplace⟩
  · rw [hrun]
    rfl
  · rw [hrun, ← List.append_assoc, ← h.responses]
    change _ = _ ++ (_ ++ [])
    rw [List.append_nil]
    rfl
  · rw [sliceBytes_append, h.written]
    exact List.append_nil _

/-- One round of the loop for an event behind what has been written. -/
lemma Acted.round {responses : List (List UInt8)} (h : Acted calls pane responses bytes actions s)
    {event : OrderedPtyResponseEvent} (hle : s.written ≤ min event.endOffset bytes.length) :
    ∃ actions', Acted calls pane responses bytes actions' (GhosttyPane.writeEvent calls bytes s event) ∧
      answered actions' = answered actions ++ [event] ∧
      (GhosttyPane.writeEvent calls bytes s event).written = min event.endOffset bytes.length := by
  unfold GhosttyPane.writeEvent
  dsimp only
  split
  · next hgt =>
    have hslice := h.slice hle (Nat.min_le_right ..)
    refine ⟨_, hslice.answer rfl, ?_, rfl⟩
    rw [answered_append, answered_append]
    exact congrArg (· ++ _) (List.append_nil _)
  · next hgt =>
    have hwritten : s.written = min event.endOffset bytes.length := by omega
    exact ⟨_, h.answer hwritten, answered_append _ _, hwritten⟩

/-- The loop over events in order. -/
lemma Acted.eventLoop {responses : List (List UInt8)} (h : Acted calls pane responses bytes actions s)
    (hsorted : events.Pairwise fun a b => a.endOffset ≤ b.endOffset)
    (hle : ∀ event ∈ events, s.written ≤ min event.endOffset bytes.length) :
    ∃ actions', Acted calls pane responses bytes actions'
        (events.foldl (GhosttyPane.writeEvent calls bytes) s) ∧
      answered actions' = answered actions ++ events := by
  induction events generalizing actions s with
  | nil => exact ⟨actions, h, (List.append_nil _).symm⟩
  | cons event events ih =>
    obtain ⟨hfirst, hrest⟩ := List.pairwise_cons.mp hsorted
    obtain ⟨actions₁, h₁, hanswered₁, hwritten⟩ := h.round (hle event List.mem_cons_self)
    obtain ⟨actions₂, h₂, hanswered₂⟩ := ih h₁ hrest fun later hlater => by
      have horder := hfirst later hlater
      omega
    refine ⟨actions₂, h₂, ?_⟩
    rw [hanswered₂, hanswered₁, List.append_assoc, List.singleton_append]

lemma pairwise_orderedEvents (defaultColorEvents : List DefaultColorTrackedEvent)
    (xtgettcapResponses : List XtgettcapResponse) :
    (GhosttyPane.orderedEvents defaultColorEvents xtgettcapResponses).Pairwise
      fun a b => a.endOffset ≤ b.endOffset := by
  unfold GhosttyPane.orderedEvents
  have hsorted := @List.pairwise_mergeSort _
    (fun (a b : OrderedPtyResponseEvent) => decide (a.endOffset ≤ b.endOffset))
    (fun a b c hab hbc => by simp at *; omega) (fun a b => by simp; omega)
    (defaultColorEvents.map OrderedPtyResponseEvent.defaultColor ++
      xtgettcapResponses.map OrderedPtyResponseEvent.xtgettcap)
  exact hsorted.imp fun h => of_decide_eq_true h

/-- A write passes the chunk to the terminal in slices that follow each other, and answers each event
where its query ends; nothing else is written, but for the host's colour where one is reset. -/
theorem responses_in_place (calls : TerminalCalls T) (pane : GhosttyPane T) (bytes : List UInt8)
    (defaultColorEvents : List DefaultColorTrackedEvent)
    (xtgettcapResponses : List XtgettcapResponse) (terminalResponses : List (List UInt8)) :
    (∃ actions,
      sliceBytes actions = bytes ∧ AnsweredInPlace bytes actions ∧
      answered actions = GhosttyPane.orderedEvents defaultColorEvents xtgettcapResponses ∧
      (pane.writePtyBytesWithOrderedResponses calls bytes defaultColorEvents xtgettcapResponses
        terminalResponses).1.terminal = (runActions calls pane actions).1.terminal ∧
      (pane.writePtyBytesWithOrderedResponses calls bytes defaultColorEvents xtgettcapResponses
        terminalResponses).2 = terminalResponses ++ (runActions calls pane actions).2) ∧
    (GhosttyPane.orderedEvents defaultColorEvents xtgettcapResponses).Perm
      (defaultColorEvents.map OrderedPtyResponseEvent.defaultColor ++
        xtgettcapResponses.map OrderedPtyResponseEvent.xtgettcap) ∧
    ∀ (pane : GhosttyPane T) event,
      (∀ offset query, event ≠ .defaultColor ⟨offset, .reset query⟩) →
      (pane.respondTo calls event).1.terminal = pane.terminal := by
  refine ⟨?_, List.mergeSort_perm .., ?_⟩
  · have hstart : Acted calls pane terminalResponses bytes [] ⟨pane, 0, terminalResponses⟩ := by
      refine ⟨rfl, (List.append_nil _).symm, rfl, Nat.zero_le _, ?_⟩
      intro before event behind h
      cases before <;> cases h
    obtain ⟨actions, hacted, hanswered⟩ := hstart.eventLoop
      (pairwise_orderedEvents defaultColorEvents xtgettcapResponses)
      fun event _ => Nat.zero_le _
    unfold GhosttyPane.writePtyBytesWithOrderedResponses
    dsimp only
    generalize List.foldl _ _ _ = s at hacted ⊢
    have hterminal : ∀ pane : GhosttyPane T,
        (if !pane.childDefaultForegroundChanged && !pane.childDefaultBackgroundChanged then
          { pane with transientDefaultColorOwnerPgid := none } else pane).terminal =
            pane.terminal := by
      intro pane
      split_ifs <;> rfl
    rw [hterminal]
    split
    · next hlt =>
      have hrest := hacted.slice (Nat.le_of_lt hlt) (Nat.le_refl _)
      rw [List.take_length] at hrest
      refine ⟨_, ?_, hrest.inPlace, ?_, ?_, hrest.responses⟩
      · rw [hrest.written]
        exact List.take_length
      · rw [answered_append, hanswered]
        exact List.append_nil _
      · exact congrArg (·.terminal) hrest.state
    · next hge =>
      have hwritten : s.written = bytes.length := Nat.le_antisymm hacted.le (by omega)
      refine ⟨actions, ?_, hacted.inPlace, hanswered, congrArg (·.terminal) hacted.state,
        hacted.responses⟩
      rw [hacted.written, hwritten, List.take_length]
  · intro pane event hreset
    cases event with
    | xtgettcap response => rfl
    | defaultColor event =>
      obtain ⟨offset, event⟩ := event
      cases event with
      | query query => rfl
      | set query => cases query <;> rfl
      | paletteQuery index => rfl
      | reset query => exact absurd rfl (hreset offset query)

/-! ### A reset -/

/-- A terminal that keeps what is written to it and answers nothing. -/
def recordingCalls : TerminalCalls (List (List UInt8)) where
  write written bytes := (written ++ [bytes], [])
  effectiveCursorColor _ := none
  effectiveForegroundColor _ := none
  paletteColor _ _ := none

def plainPane : GhosttyPane (List (List UInt8)) :=
  ⟨[], ⟨none, none⟩, false, false, none, []⟩

/-- `OSC 110`, which resets the default foreground. -/
def resetChunk : List UInt8 := asciiBytes "\x1b]110\x07"

/-- Behind a reset the terminal gets the host's colour, which is no part of the chunk. -/
theorem reset_writes_host_color :
    (plainPane.writePtyBytesWithOrderedResponses recordingCalls resetChunk
      (DefaultColorEventTracker.default.observe resetChunk).pending
      (XtgettcapQueryTracker.default.observe resetChunk).pending []).1.terminal =
        [resetChunk, asciiBytes "\x1b]110\x1b\\"] ∧
    [resetChunk, asciiBytes "\x1b]110\x1b\\"].flatten ≠ resetChunk := by
  decide +kernel

end

end Ork3.Pane
