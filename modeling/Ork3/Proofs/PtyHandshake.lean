import Ork3.Model.PtyActor

/-!
# The gate, the calls of the handoff controller and the state of the actor

While the gate is open the actor runs and no handoff is on its way; a call that is answered was the
last one in the queue. From this follows what holds after a `begin_handoff` has returned.
-/

namespace Ork3.Pty

open Ork3.Library

/-- The call of the controller that a command belongs to. -/
def PtyIoControlCommand.number : PtyIoControlCommand → Option Nat
  | beginHandoff call | duplicateForHandoff call | rollbackHandoff call
  | releaseAfterCommit call => some call
  | foregroundProcessGroup | shutdown => none

/-- The `begin_handoff` that the actor is working on. -/
def Phase.beginCall : Phase → Option Nat
  | beginDrain call | beginControls call | beginLoop call | flush (.beginHandoff call) => some call
  | _ => none

/-- The actor is working on a `begin_handoff` and has emptied the queue of data commands. -/
def Phase.Drained : Phase → Prop
  | beginControls _ | beginLoop _ | flush (.beginHandoff _) => True
  | _ => False

namespace PtyIoActor

/-- The actor's thread has not left its loop. -/
def Live (s : PtyIoActor) : Prop := s.phase.exitCause = none

/-- The calls the actor has not answered, in the order in which it will. -/
def calls (s : PtyIoActor) : List Nat :=
  s.phase.beginCall.toList ++ s.controlQueue.filterMap PtyIoControlCommand.number

/-- The calls and their commands. -/
structure Numbered (s : PtyIoActor) : Prop where
  sorted : s.calls.Pairwise (· < ·)
  bounded : ∀ n ∈ s.calls, n ≤ s.call
  answered : s.reply.isSome → s.calls = []
  begins : s.controller = .beginning → ∀ c ∈ s.controlQueue, c.number = some s.call →
    c = .beginHandoff s.call
  rollsBack : ∀ inBegin, s.controller = .rollingBack inBegin →
    s.phase.beginCall ≠ some s.call ∧ ∀ c ∈ s.controlQueue, c.number = some s.call →
      c = .rollbackHandoff s.call

/-- What the gate, the replies and the state say of each other. -/
structure Agreed (s : PtyIoActor) : Prop where
  opened : s.Live → s.accepting = true → s.state = .running ∧ s.phase.beginCall = none ∧
    ∀ n, .beginHandoff n ∉ s.controlQueue
  empty : s.Live → s.phase.Drained ∨ s.state = .quiesced → s.dataQueue = []
  unreleased : s.Live → s.state ≠ .released
  begun : s.Live → s.controller = .beginning → s.reply = some true → s.state = .quiesced
  rolledBack : s.Live → ∀ inBegin, s.controller = .rollingBack inBegin →
    s.reply = some true → s.state = .running
  refused : s.Live → ∀ inBegin, s.controller = .rollingBack inBegin → s.reply ≠ some false
  quieted : s.Live → s.quiet = true → s.state = .quiesced ∧ ∀ n, .rollbackHandoff n ∉ s.controlQueue
  reading : s.phase = .read → s.state = .running

/-- Only what is written and what the next resize brings may differ. -/
structure SameHandshake (s s' : PtyIoActor) : Prop where
  accepting : s'.accepting = s.accepting
  dataQueue : s'.dataQueue = s.dataQueue
  controlQueue : s'.controlQueue = s.controlQueue
  controller : s'.controller = s.controller
  call : s'.call = s.call
  reply : s'.reply = s.reply
  state : s'.state = s.state
  phase : s'.phase = s.phase
  quiet : s'.quiet = s.quiet

section
variable {s s' s'' : PtyIoActor}

lemma SameHandshake.refl (s : PtyIoActor) : SameHandshake s s :=
  ⟨rfl, rfl, rfl, rfl, rfl, rfl, rfl, rfl, rfl⟩

lemma SameHandshake.trans (h : SameHandshake s s') (h' : SameHandshake s' s'') :
    SameHandshake s s'' :=
  ⟨h'.accepting.trans h.accepting, h'.dataQueue.trans h.dataQueue,
    h'.controlQueue.trans h.controlQueue, h'.controller.trans h.controller, h'.call.trans h.call,
    h'.reply.trans h.reply, h'.state.trans h.state, h'.phase.trans h.phase, h'.quiet.trans h.quiet⟩

lemma sameHandshake_enqueueWrite (s : PtyIoActor) (message : Message) :
    SameHandshake s (s.enqueueWrite message) := by
  unfold enqueueWrite
  split_ifs
  · exact .refl s
  · exact ⟨rfl, rfl, rfl, rfl, rfl, rfl, rfl, rfl, rfl⟩

lemma sameHandshake_enqueueTerminalResponses (s : PtyIoActor)
    (terminalResponses : List (List UInt8)) :
    SameHandshake s (s.enqueueTerminalResponses terminalResponses) := by
  unfold enqueueTerminalResponses
  split_ifs
  · exact .refl s
  · exact List.foldlRecOn terminalResponses _ (.refl s) fun t h bytes _ =>
      h.trans (sameHandshake_enqueueWrite t _)

lemma sameHandshake_applyPendingControls (s : PtyIoActor) :
    SameHandshake s s.applyPendingControls := by
  have hcleared : SameHandshake s { s with
      resize := none
      nudge := false } :=
    ⟨rfl, rfl, rfl, rfl, rfl, rfl, rfl, rfl, rfl⟩
  unfold applyPendingControls
  dsimp only
  split
  · exact hcleared
  · exact hcleared.trans (sameHandshake_enqueueTerminalResponses _ _)

lemma Numbered.congr (h : s.Numbered) (hphase : s'.phase.beginCall = s.phase.beginCall)
    (hqueue : s'.controlQueue = s.controlQueue) (hcontroller : s'.controller = s.controller)
    (hcall : s'.call = s.call) (hreply : s'.reply = s.reply) : s'.Numbered := by
  have hcalls : s'.calls = s.calls := by rw [calls, hphase, hqueue, calls]
  refine ⟨?_, ?_, ?_, ?_, ?_⟩
  · rw [hcalls]
    exact h.sorted
  · rw [hcalls, hcall]
    exact h.bounded
  · rw [hcalls, hreply]
    exact h.answered
  · rw [hcontroller, hqueue, hcall]
    exact h.begins
  · rw [hcontroller, hqueue, hcall, hphase]
    exact h.rollsBack

lemma SameHandshake.numbered (hs : SameHandshake s s') (h : s.Numbered) : s'.Numbered :=
  h.congr (congrArg Phase.beginCall hs.phase) hs.controlQueue hs.controller hs.call hs.reply

lemma SameHandshake.agreed (hs : SameHandshake s s') (h : s.Agreed) : s'.Agreed := by
  have hlive : s'.Live ↔ s.Live := by rw [Live, hs.phase, Live]
  refine ⟨?_, ?_, ?_, ?_, ?_, ?_, ?_, ?_⟩
  · rw [hlive, hs.accepting, hs.state, hs.phase, hs.controlQueue]
    exact h.opened
  · rw [hlive, hs.phase, hs.state, hs.dataQueue]
    exact h.empty
  · rw [hlive, hs.state]
    exact h.unreleased
  · rw [hlive, hs.controller, hs.reply, hs.state]
    exact h.begun
  · rw [hlive, hs.controller, hs.reply, hs.state]
    exact h.rolledBack
  · rw [hlive, hs.controller, hs.reply]
    exact h.refused
  · rw [hlive, hs.quiet, hs.state, hs.controlQueue]
    exact h.quieted
  · rw [hs.phase, hs.state]
    exact h.reading

/-! ### Moving through the loop -/

/-- The actor stops working on the `begin_handoff` it may be in. -/
lemma Numbered.leave (h : s.Numbered) {p : Phase} (hcall : p.beginCall = none) :
    Numbered { s with phase := p } := by
  have hcalls : (calls { s with phase := p }).Sublist s.calls := by
    unfold calls
    rw [hcall]
    exact List.sublist_append_right _ _
  refine ⟨h.sorted.sublist hcalls, fun n hn => h.bounded n (hcalls.subset hn), fun hreply => ?_,
    h.begins, fun inBegin hcontroller => ⟨?_, (h.rollsBack inBegin hcontroller).2⟩⟩
  · have hnone := h.answered hreply
    rw [hnone] at hcalls
    exact List.sublist_nil.mp hcalls
  · rw [hcall]
    exact (Option.some_ne_none _).symm

lemma Agreed.setPhase (h : s.Agreed) {p : Phase} (hlive : p.exitCause = none → s.Live)
    (hcall : p.beginCall = s.phase.beginCall ∨ p.beginCall = none)
    (hdrained : p.Drained → s.phase.Drained ∨ s.dataQueue = [])
    (hread : p = .read → s.state = .running) : Agreed { s with phase := p } where
  opened hlive' haccepting := by
    obtain ⟨hstate, hnone, hqueue⟩ := h.opened (hlive hlive') haccepting
    refine ⟨hstate, ?_, hqueue⟩
    rcases hcall with hsame | hleft
    · exact hsame.trans hnone
    · exact hleft
  empty hlive' hor := by
    rcases hor with hp | hstate
    · rcases hdrained hp with hold | hnone
      · exact h.empty (hlive hlive') (.inl hold)
      · exact hnone
    · exact h.empty (hlive hlive') (.inr hstate)
  unreleased hlive' := h.unreleased (hlive hlive')
  begun hlive' := h.begun (hlive hlive')
  rolledBack hlive' := h.rolledBack (hlive hlive')
  refused hlive' := h.refused (hlive hlive')
  quieted hlive' := h.quieted (hlive hlive')
  reading := hread

/-- On the way out nothing is left to agree on. -/
lemma agreed_of_exit (hexit : s.phase.exitCause ≠ none) : s.Agreed where
  opened hlive := absurd hlive hexit
  empty hlive := absurd hlive hexit
  unreleased hlive := absurd hlive hexit
  begun hlive := absurd hlive hexit
  rolledBack hlive := absurd hlive hexit
  refused hlive := absurd hlive hexit
  quieted hlive := absurd hlive hexit
  reading hread := by
    rw [hread] at hexit
    exact absurd rfl hexit

/-! ### Replies -/

lemma sendReply_cases (s : PtyIoActor) (call : Nat) (ok : Bool) :
    s.sendReply call ok = s ∨
      (call = s.call ∧ s.controller ≠ .idle ∧ s.sendReply call ok = { s with reply := some ok }) := by
  unfold sendReply
  split_ifs with hsent
  · rw [Bool.and_eq_true, decide_eq_true_iff, decide_eq_true_iff] at hsent
    exact .inr ⟨hsent.1, hsent.2, rfl⟩
  · exact .inl rfl

@[simp] lemma phase_sendReply (s : PtyIoActor) (call : Nat) (ok : Bool) :
    (s.sendReply call ok).phase = s.phase := by
  obtain hsame | ⟨-, -, hsent⟩ := s.sendReply_cases call ok
  · rw [hsame]
  · rw [hsent]

lemma calls_cons {c : PtyIoControlCommand} {rest : List PtyIoControlCommand}
    (hphase : s.phase.beginCall = none) (hqueue : s.controlQueue = c :: rest) :
    s.calls = c.number.toList ++ calls { s with controlQueue := rest } := by
  unfold calls
  rw [hphase, hqueue, List.filterMap_cons]
  cases c.number <;> rfl

/-- Taking a command out of the queue. -/
lemma Numbered.pop (h : s.Numbered) {c : PtyIoControlCommand} {rest : List PtyIoControlCommand}
    (hphase : s.phase.beginCall = none) (hqueue : s.controlQueue = c :: rest) :
    Numbered { s with controlQueue := rest } := by
  have hcalls := calls_cons hphase hqueue
  have hsub : (calls { s with controlQueue := rest }).Sublist s.calls := by
    rw [hcalls]
    exact List.sublist_append_right _ _
  have hrest : ∀ c' ∈ rest, c' ∈ s.controlQueue := fun c' hc' => by
    rw [hqueue]
    exact List.mem_cons_of_mem c hc'
  refine ⟨h.sorted.sublist hsub, fun n hn => h.bounded n (hsub.subset hn), fun hreply => ?_,
    fun hbeginning c' hc' => h.begins hbeginning c' (hrest c' hc'), fun inBegin hrolling => ?_⟩
  · have hnone := h.answered hreply
    rw [hnone] at hsub
    exact List.sublist_nil.mp hsub
  · obtain ⟨hne, hall⟩ := h.rollsBack inBegin hrolling
    exact ⟨hne, fun c' hc' => hall c' (hrest c' hc')⟩

/-- A call at the head of the queue has no reply yet; if it is the latest one, it is the last. -/
lemma Numbered.head (h : s.Numbered) {c : PtyIoControlCommand} {rest : List PtyIoControlCommand}
    (hphase : s.phase.beginCall = none) (hqueue : s.controlQueue = c :: rest) {n : Nat}
    (hn : c.number = some n) :
    s.reply = none ∧ (n = s.call → calls { s with controlQueue := rest } = []) := by
  have hcalls := calls_cons hphase hqueue
  rw [hn, Option.toList_some, List.singleton_append] at hcalls
  refine ⟨?_, fun hlatest => ?_⟩
  · cases hreply : s.reply with
    | none => rfl
    | some ok =>
      have hnone := h.answered (hreply ▸ rfl)
      rw [hcalls] at hnone
      cases hnone
  · have hsorted := h.sorted
    have hbounded := h.bounded
    rw [hcalls] at hsorted hbounded
    refine List.eq_nil_iff_forall_not_mem.mpr fun m hm => ?_
    have hlt := (List.pairwise_cons.mp hsorted).1 m hm
    have hle := hbounded m (List.mem_cons_of_mem n hm)
    omega

/-- The reply to the latest call, when no other is left. -/
lemma Numbered.sendReply (h : s.Numbered) {n : Nat} (ok : Bool) (hlast : n = s.call → s.calls = []) :
    (s.sendReply n ok).Numbered := by
  obtain hsame | ⟨hlatest, -, hsent⟩ := s.sendReply_cases n ok
  · rw [hsame]
    exact h
  · rw [hsent]
    exact ⟨h.sorted, h.bounded, fun _ => hlast hlatest, h.begins, h.rollsBack⟩

/-- A reply keeps the agreement if it says what its caller relies on. -/
lemma Agreed.sendReply (h : s.Agreed) {n : Nat} {ok : Bool}
    (hbegun : n = s.call → s.controller = .beginning → ok = true → s.state = .quiesced)
    (hrolled : n = s.call → ∀ inBegin, s.controller = .rollingBack inBegin →
      ok = true ∧ s.state = .running) : (s.sendReply n ok).Agreed := by
  obtain hsame | ⟨hlatest, -, hsent⟩ := s.sendReply_cases n ok
  · rw [hsame]
    exact h
  · rw [hsent]
    refine ⟨h.opened, h.empty, h.unreleased, ?_, ?_, ?_, h.quieted, h.reading⟩
    · intro _ hbeginning hok
      exact hbegun hlatest hbeginning (Option.some.inj hok)
    · intro _ inBegin hrolling _
      exact (hrolled hlatest inBegin hrolling).2
    · intro _ inBegin hrolling hok
      have htrue := (hrolled hlatest inBegin hrolling).1
      rw [htrue] at hok
      cases hok

/-- The invariant of all runs. -/
structure Handshake (s : PtyIoActor) : Prop where
  numbered : s.Numbered
  agreed : s.Agreed

lemma Handshake.same (h : s.Handshake) (hs : SameHandshake s s') : s'.Handshake :=
  ⟨hs.numbered h.numbered, hs.agreed h.agreed⟩

lemma Handshake.setPhase (h : s.Handshake) {p : Phase} (hlive : p.exitCause = none → s.Live)
    (hcall : p.beginCall = s.phase.beginCall) (hdrained : p.Drained → s.phase.Drained ∨ s.dataQueue = [])
    (hread : p = .read → s.state = .running) : Handshake { s with phase := p } :=
  ⟨h.numbered.congr hcall rfl rfl rfl rfl, h.agreed.setPhase hlive (.inl hcall) hdrained hread⟩

/-- To a place in the loop where no `begin_handoff` is worked on. -/
lemma Handshake.toLoop (h : s.Handshake) (hlive : s.Live) {p : Phase} (hcall : p.beginCall = none)
    (hdrained : ¬p.Drained) (hread : p = .read → s.state = .running) :
    Handshake { s with phase := p } :=
  ⟨h.numbered.leave hcall, h.agreed.setPhase (fun _ => hlive) (.inr hcall)
    (fun hp => absurd hp hdrained) hread⟩

lemma Handshake.exit (h : s.Handshake) (cause : ExitCause) :
    Handshake { s with phase := .exiting cause } :=
  ⟨h.numbered.leave rfl, agreed_of_exit (Option.some_ne_none cause)⟩

lemma Agreed.pop (h : s.Agreed) {c : PtyIoControlCommand} {rest : List PtyIoControlCommand}
    (hqueue : s.controlQueue = c :: rest) : Agreed { s with controlQueue := rest } := by
  have hrest : ∀ c' ∈ rest, c' ∈ s.controlQueue := fun c' hc' => by
    rw [hqueue]
    exact List.mem_cons_of_mem c hc'
  refine ⟨fun hlive haccepting => ?_, h.empty, h.unreleased, h.begun, h.rolledBack, h.refused,
    fun hlive hquiet => ?_, h.reading⟩
  · obtain ⟨hstate, hnone, hfree⟩ := h.opened hlive haccepting
    exact ⟨hstate, hnone, fun n hn => hfree n (hrest _ hn)⟩
  · obtain ⟨hstate, hfree⟩ := h.quieted hlive hquiet
    exact ⟨hstate, fun n hn => hfree n (hrest _ hn)⟩

lemma Handshake.drainControlCommand (h : s.Handshake) (hphase : s.phase = .drainControl) :
    s.drainControlCommand.Handshake := by
  have hnone : s.phase.beginCall = none := by rw [hphase]; rfl
  have hlive : s.Live := by rw [Live, hphase]; rfl
  unfold PtyIoActor.drainControlCommand
  split
  case h_2 hqueue =>
    split_ifs
    · exact h.exit .handlesDropped
    · exact h.toLoop (p := .drainData) hlive rfl (fun hd => hd) (fun hr => nomatch hr)
  case h_1 c rest hqueue =>
    have hpop := h.numbered.pop hnone hqueue
    have hagreed := h.agreed.pop hqueue
    have hmem : c ∈ s.controlQueue := hqueue ▸ List.mem_cons_self
    cases c with
    | beginHandoff n =>
      obtain ⟨hreply, -⟩ := h.numbered.head hnone hqueue rfl
      have hcalls : calls { s with
          controlQueue := rest
          phase := .beginDrain n } = s.calls := by
        unfold calls
        rw [hphase, hqueue]
        rfl
      refine ⟨⟨hcalls ▸ h.numbered.sorted, hcalls ▸ h.numbered.bounded,
        hcalls ▸ h.numbered.answered, hpop.begins, fun inBegin hrolling => ⟨fun hlatest => ?_,
          (hpop.rollsBack inBegin hrolling).2⟩⟩, ⟨fun _ haccepting => ?_, fun _ hor => ?_,
        fun _ => hagreed.unreleased hlive, fun _ => hagreed.begun hlive,
        fun _ => hagreed.rolledBack hlive, fun _ => hagreed.refused hlive,
        fun _ => hagreed.quieted hlive, fun hread => nomatch hread⟩⟩
      · exact absurd ((h.numbered.rollsBack inBegin hrolling).2 _ hmem hlatest) (by rintro ⟨⟩)
      · exact absurd hmem ((h.agreed.opened hlive haccepting).2.2 n)
      · exact hagreed.empty hlive (.inr (hor.resolve_left fun hd => hd))
    | duplicateForHandoff n =>
      obtain ⟨hreply, hlast⟩ := h.numbered.head hnone hqueue rfl
      refine ⟨hpop.sendReply _ hlast, hagreed.sendReply (fun hlatest hbeginning => ?_)
        fun hlatest inBegin hrolling => ?_⟩
      · exact absurd (h.numbered.begins hbeginning _ hmem (congrArg some hlatest)) (by rintro ⟨⟩)
      · exact absurd ((h.numbered.rollsBack inBegin hrolling).2 _ hmem (congrArg some hlatest))
          (by rintro ⟨⟩)
    | foregroundProcessGroup => exact ⟨hpop, hagreed⟩
    | rollbackHandoff n =>
      obtain ⟨hreply, hlast⟩ := h.numbered.head hnone hqueue rfl
      unfold handleControlCommand
      dsimp only
      rw [if_neg (h.agreed.unreleased hlive)]
      have hrunning : Agreed { s with
          controlQueue := rest
          state := .running } := by
        refine ⟨fun _ haccepting => ?_, fun _ hor => ?_, fun _ => (nomatch ·), fun _ _ hok => ?_,
          fun _ _ _ _ => rfl, fun _ _ _ hok => ?_, fun _ hquiet => ?_, fun _ => rfl⟩
        · exact ⟨rfl, (hagreed.opened hlive haccepting).2⟩
        · rcases hor with hdrained | hstate
          · dsimp only at hdrained
            rw [hphase] at hdrained
            cases hdrained
          · cases hstate
        · cases hreply.symm.trans hok
        · cases hreply.symm.trans hok
        · exact absurd hmem ((h.agreed.quieted hlive hquiet).2 n)
      have hnumbered : Numbered { s with
          controlQueue := rest
          state := .running } :=
        hpop.congr rfl rfl rfl rfl rfl
      refine ⟨hnumbered.sendReply true hlast,
        hrunning.sendReply (fun hlatest hbeginning _ => ?_) fun _ _ _ => ⟨rfl, rfl⟩⟩
      exact absurd (h.numbered.begins hbeginning _ hmem (congrArg some hlatest)) (by rintro ⟨⟩)
    | releaseAfterCommit n =>
      obtain ⟨hreply, hlast⟩ := h.numbered.head hnone hqueue rfl
      have hleft : Numbered { s with
          controlQueue := rest
          state := .released
          pendingWrites := []
          phase := .exiting .released } :=
        (hpop.leave (p := .exiting .released) rfl).congr rfl rfl rfl rfl rfl
      refine ⟨hleft.sendReply true fun hlatest => ?_, agreed_of_exit ?_⟩
      · have hrest := hlast hlatest
        unfold calls at hrest ⊢
        rw [hnone] at hrest
        exact hrest
      · unfold handleControlCommand
        rw [phase_sendReply]
        exact Option.some_ne_none _
    | shutdown => exact Handshake.exit ⟨hpop, hagreed⟩ .shutdown

lemma Handshake.popData (h : s.Handshake) {bytes : List UInt8} {rest : List (List UInt8)}
    (hqueue : s.dataQueue = bytes :: rest) : Handshake { s with dataQueue := rest } := by
  refine ⟨h.numbered.congr rfl rfl rfl rfl rfl, h.agreed.opened, fun hlive hor => ?_,
    h.agreed.unreleased, h.agreed.begun, h.agreed.rolledBack, h.agreed.refused, h.agreed.quieted,
    h.agreed.reading⟩
  have hnone := h.agreed.empty hlive hor
  rw [hqueue] at hnone
  cases hnone

lemma Handshake.drainDataCommand (h : s.Handshake) (hphase : s.phase = .drainData) :
    s.drainDataCommand.Handshake := by
  have hlive : s.Live := by rw [Live, hphase]; rfl
  unfold PtyIoActor.drainDataCommand
  split
  case h_1 bytes rest hqueue =>
    unfold handleDataCommand
    dsimp only
    split_ifs
    · exact (h.popData hqueue).same (sameHandshake_enqueueWrite _ _)
    · exact h.popData hqueue
  case h_2 =>
    split_ifs
    · exact h.exit .handlesDropped
    · exact h.toLoop (p := .applyControls) hlive rfl (fun hd => hd) (fun hr => nomatch hr)

lemma Handshake.drainPreQuiesceCommand (h : s.Handshake) {call : Nat}
    (hphase : s.phase = .beginDrain call) : (s.drainPreQuiesceCommand call).Handshake := by
  unfold PtyIoActor.drainPreQuiesceCommand
  split
  case h_1 bytes rest hqueue =>
    dsimp only
    split_ifs
    · exact (h.popData hqueue).same (sameHandshake_enqueueWrite _ _)
    · exact h.popData hqueue
  case h_2 hqueue =>
    refine h.setPhase (fun _ => ?_) ?_ (fun _ => .inr hqueue) (fun hr => nomatch hr)
    · rw [Live, hphase]
      rfl
    · rw [hphase]
      rfl

/-- The `begin_handoff` in progress ends. -/
lemma Handshake.endBegin (h : s.Handshake) {call : Nat} (hcall : s.phase.beginCall = some call)
    (hlive : s.Live) {state : ActorState} (ok : Bool)
    (hstate : state = .quiesced ∧ s.phase.Drained ∨ ok = false ∧ state = s.state) :
    (sendReply { s with
      state := state
      phase := .drainControl } call ok).Handshake := by
  have hcalls : s.calls = call :: calls { s with phase := .drainControl } := by
    unfold calls
    rw [hcall]
    rfl
  have hshut : s.accepting = false := by
    cases haccepting : s.accepting with
    | false => rfl
    | true =>
      have hnone := (h.agreed.opened hlive haccepting).2.1
      rw [hcall] at hnone
      cases hnone
  have hlast : call = s.call → calls { s with phase := .drainControl } = [] := by
    intro hlatest
    have hsorted := h.numbered.sorted
    have hbounded := h.numbered.bounded
    rw [hcalls] at hsorted hbounded
    refine List.eq_nil_iff_forall_not_mem.mpr fun m hm => ?_
    have hlt := (List.pairwise_cons.mp hsorted).1 m hm
    have hle := hbounded m (List.mem_cons_of_mem call hm)
    omega
  have hreply : s.reply = none := by
    cases hreply : s.reply with
    | none => rfl
    | some ok =>
      have hnone := h.numbered.answered (hreply ▸ rfl)
      rw [hcalls] at hnone
      cases hnone
  have hnumbered : Numbered { s with
      state := state
      phase := .drainControl } :=
    (h.numbered.leave (p := .drainControl) rfl).congr rfl rfl rfl rfl rfl
  refine ⟨hnumbered.sendReply ok hlast, Agreed.sendReply ?_ ?_ ?_⟩
  · refine ⟨fun _ haccepting => ?_, fun _ hor => ?_, fun _ => ?_, fun _ _ hok => ?_,
      fun _ _ _ hok => ?_, fun _ _ _ hok => ?_, fun _ hquiet => ?_, fun hread => nomatch hread⟩
    · cases hshut.symm.trans haccepting
    · rcases hstate with ⟨-, hdrained⟩ | ⟨-, rfl⟩
      · exact h.agreed.empty hlive (.inl hdrained)
      · exact h.agreed.empty hlive (.inr (hor.resolve_left fun hd => hd))
    · rcases hstate with ⟨rfl, -⟩ | ⟨-, rfl⟩
      · exact fun hreleased => nomatch hreleased
      · exact h.agreed.unreleased hlive
    · cases hreply.symm.trans hok
    · cases hreply.symm.trans hok
    · cases hreply.symm.trans hok
    · obtain ⟨hquiesced, hfree⟩ := h.agreed.quieted hlive hquiet
      rcases hstate with ⟨rfl, -⟩ | ⟨-, rfl⟩
      · exact ⟨rfl, hfree⟩
      · exact ⟨hquiesced, hfree⟩
  · intro _ _ hok
    rcases hstate with ⟨hquiesced, -⟩ | ⟨hfalse, -⟩
    · exact hquiesced
    · cases hfalse.symm.trans hok
  · intro hlatest inBegin hrolling
    exact absurd (hlatest ▸ hcall) (h.numbered.rollsBack inBegin hrolling).1

lemma Handshake.beginApplyControls (h : s.Handshake) {call : Nat}
    (hphase : s.phase = .beginControls call) : (s.beginApplyControls call).Handshake := by
  have hsame := s.sameHandshake_applyPendingControls
  have happlied := h.same hsame
  have hphase' : s.applyPendingControls.phase = .beginControls call := hsame.phase.trans hphase
  have hlive : s.applyPendingControls.Live := by
    rw [Live, hphase']
    rfl
  unfold PtyIoActor.beginApplyControls
  dsimp only
  rw [if_neg (happlied.agreed.unreleased hlive)]
  refine happlied.setPhase (fun _ => hlive) ?_ (fun _ => .inl ?_) (fun hr => nomatch hr)
  · rw [hphase']
    rfl
  · rw [hphase']
    trivial

lemma Handshake.beginTurn (h : s.Handshake) {call : Nat} (hphase : s.phase = .beginLoop call)
    (deadline : Bool) : (s.beginTurn call deadline).Handshake := by
  have hlive : s.Live := by rw [Live, hphase]; rfl
  have hcall : s.phase.beginCall = some call := by rw [hphase]; rfl
  have hdrained : s.phase.Drained := by rw [hphase]; trivial
  unfold PtyIoActor.beginTurn
  split_ifs
  · exact h.endBegin hcall hlive true (.inl ⟨rfl, hdrained⟩)
  · exact h.endBegin hcall hlive false (.inr ⟨rfl, rfl⟩)
  · exact h.setPhase (fun _ => hlive) hcall.symm (fun _ => .inl hdrained) (fun hr => nomatch hr)

lemma Handshake.afterPoll (h : s.Handshake) (hlive : s.Live) (readReady : Bool) :
    (s.afterPoll readReady).Handshake := by
  unfold PtyIoActor.afterPoll
  split_ifs with hready
  · rw [Bool.and_eq_true, decide_eq_true_iff] at hready
    exact h.toLoop (p := .read) hlive rfl (fun hd => hd) fun _ => hready.1
  · exact h.toLoop (p := .drainControl) hlive rfl (fun hd => hd) (fun hr => nomatch hr)

lemma Handshake.flushReturns (h : s.Handshake) {ret : FlushReturn} (hphase : s.phase = .flush ret) :
    (s.flushReturns ret).Handshake := by
  have hlive : s.Live := by rw [Live, hphase]; rfl
  cases ret with
  | beginHandoff call =>
    refine h.setPhase (fun _ => hlive) ?_ (fun _ => .inl ?_) (fun hr => nomatch hr)
    · rw [hphase]
      rfl
    · rw [hphase]
      trivial
  | poll => exact h.toLoop (p := .poll) hlive rfl (fun hd => hd) (fun hr => nomatch hr)
  | afterPoll readReady => exact h.afterPoll hlive readReady

lemma Handshake.writeHead (h : s.Handshake) {ret : FlushReturn} (hphase : s.phase = .flush ret)
    (message : Message) (rest : List Message) (outcome : WriteOutcome) :
    (s.writeHead ret message rest outcome).Handshake := by
  cases outcome with
  | wrote n =>
    unfold PtyIoActor.writeHead
    dsimp only
    split_ifs
    · exact h.flushReturns hphase
    · exact h.same ⟨rfl, rfl, rfl, rfl, rfl, rfl, rfl, rfl, rfl⟩
    · exact h.same ⟨rfl, rfl, rfl, rfl, rfl, rfl, rfl, rfl, rfl⟩
  | wouldBlock => exact h.flushReturns hphase
  | interrupted => exact h.flushReturns hphase
  | failed =>
    refine Handshake.flushReturns (h.same ?_) hphase
    exact ⟨rfl, rfl, rfl, rfl, rfl, rfl, rfl, rfl, rfl⟩

lemma Handshake.readOnce (h : s.Handshake) (hphase : s.phase = .read) (outcome : ReadOutcome) :
    (s.readOnce outcome).Handshake := by
  have hlive : s.Live := by rw [Live, hphase]; rfl
  have hloop : Handshake { s with phase := .drainControl } :=
    h.toLoop hlive rfl (fun hd => hd) (fun hr => nomatch hr)
  cases outcome with
  | data bytes terminalResponses =>
    exact hloop.same (sameHandshake_enqueueTerminalResponses _ terminalResponses)
  | wouldBlock => exact hloop
  | interrupted => exact hloop
  | eof => exact h.exit .readerEnded
  | failed => exact h.exit .readerEnded

lemma Handshake.pollReady (h : s.Handshake) (hphase : s.phase = .poll)
    (wake writeReady readReady : Bool) : (s.pollReady wake writeReady readReady).Handshake := by
  have hlive : s.Live := by rw [Live, hphase]; rfl
  unfold PtyIoActor.pollReady
  split_ifs
  · exact h.toLoop (p := .drainControl) hlive rfl (fun hd => hd) (fun hr => nomatch hr)
  · exact h.toLoop (p := .flush (.afterPoll readReady)) hlive rfl (fun hd => hd)
      (fun hr => nomatch hr)
  · exact h.afterPoll hlive readReady

lemma Handshake.actorStep (h : s.Handshake) {event : ActorEvent}
    (hstep : s.actorStep event = some s') : s'.Handshake := by
  unfold PtyIoActor.actorStep at hstep
  split at hstep
  case h_1 hphase =>
    cases hstep
    exact h.drainControlCommand hphase
  case h_2 hphase =>
    cases hstep
    exact h.drainDataCommand hphase
  case h_3 hphase =>
    cases hstep
    have hsame := s.sameHandshake_applyPendingControls
    refine (h.same hsame).toLoop (p := .flush .poll) ?_ rfl (fun hd => hd) (fun hr => nomatch hr)
    rw [Live, hsame.phase, hphase]
    rfl
  case h_4 call hphase =>
    cases hstep
    exact h.drainPreQuiesceCommand hphase
  case h_5 call hphase =>
    cases hstep
    exact h.beginApplyControls hphase
  case h_6 call hphase =>
    cases hstep
    exact h.beginTurn hphase false
  case h_7 call hphase =>
    cases hstep
    exact h.beginTurn hphase true
  case h_8 ret hphase =>
    split_ifs at hstep
    cases hstep
    exact h.flushReturns hphase
  case h_9 ret outcome hphase =>
    split at hstep
    · cases hstep
    · cases hstep
      exact h.writeHead hphase _ _ outcome
  case h_10 wake writeReady readReady hphase =>
    cases hstep
    exact h.pollReady hphase wake writeReady readReady
  case h_11 hphase =>
    cases hstep
    exact h.exit .pollFailed
  case h_12 outcome hphase =>
    cases hstep
    exact h.readOnce hphase outcome
  case h_13 cause hphase =>
    cases hstep
    exact ⟨h.numbered.leave rfl, agreed_of_exit (Option.some_ne_none cause)⟩
  case h_14 cause hphase =>
    cases hstep
    exact ⟨h.numbered.leave rfl, agreed_of_exit (Option.some_ne_none cause)⟩
  case h_15 => cases hstep

/-! ### The handles -/

/-- What is accepted comes while the gate is open. -/
lemma Handshake.accept (h : s.Handshake) (hopen : s.accepting = true) (bytes : List UInt8) :
    (s.accept bytes).Handshake := by
  refine ⟨h.numbered.congr rfl rfl rfl rfl rfl, h.agreed.opened, fun hlive hor => ?_,
    h.agreed.unreleased, h.agreed.begun, h.agreed.rolledBack, h.agreed.refused, h.agreed.quieted,
    h.agreed.reading⟩
  obtain ⟨hstate, hnone, -⟩ := h.agreed.opened hlive hopen
  change s.phase.Drained ∨ s.state = .quiesced at hor
  rcases hor with hdrained | hquiesced
  · cases hphase : s.phase with
    | flush ret =>
      rw [hphase] at hdrained hnone
      cases ret with
      | beginHandoff call => cases hnone
      | _ => exact hdrained.elim
    | beginControls call =>
      rw [hphase] at hnone
      cases hnone
    | beginLoop call =>
      rw [hphase] at hnone
      cases hnone
    | _ =>
      rw [hphase] at hdrained
      exact hdrained.elim
  · rw [hstate] at hquiesced
    cases hquiesced

/-- A command that is no call is queued. -/
lemma Handshake.queueCommand (h : s.Handshake) {c : PtyIoControlCommand} (hc : c.number = none) :
    Handshake { s with controlQueue := s.controlQueue ++ [c] } := by
  have hcalls : calls { s with controlQueue := s.controlQueue ++ [c] } = s.calls := by
    unfold calls
    rw [List.filterMap_append, List.filterMap_cons, hc, List.filterMap_nil, List.append_nil]
  have hmem : ∀ c' ∈ s.controlQueue ++ [c], c'.number ≠ none → c' ∈ s.controlQueue := by
    intro c' hc' hnumber
    rcases List.mem_append.mp hc' with hold | hnew
    · exact hold
    · rw [List.mem_singleton.mp hnew] at hnumber
      exact absurd hc hnumber
  refine ⟨⟨hcalls ▸ h.numbered.sorted, hcalls ▸ h.numbered.bounded, hcalls ▸ h.numbered.answered,
    fun hbeginning c' hc' hlatest => ?_, fun inBegin hrolling => ⟨(h.numbered.rollsBack inBegin
      hrolling).1, fun c' hc' hlatest => ?_⟩⟩, ⟨fun hlive hopen => ?_, h.agreed.empty,
    h.agreed.unreleased, h.agreed.begun, h.agreed.rolledBack, h.agreed.refused,
    fun hlive hquiet => ?_, h.agreed.reading⟩⟩
  · exact h.numbered.begins hbeginning c' (hmem c' hc' (hlatest ▸ Option.some_ne_none _)) hlatest
  · exact (h.numbered.rollsBack inBegin hrolling).2 c'
      (hmem c' hc' (hlatest ▸ Option.some_ne_none _)) hlatest
  · obtain ⟨hstate, hnone, hfree⟩ := h.agreed.opened hlive hopen
    exact ⟨hstate, hnone, fun n hn => hfree n (hmem _ hn (Option.some_ne_none n))⟩
  · obtain ⟨hstate, hfree⟩ := h.agreed.quieted hlive hquiet
    exact ⟨hstate, fun n hn => hfree n (hmem _ hn (Option.some_ne_none n))⟩

lemma Handshake.close (h : s.Handshake) : Handshake { s with accepting := false } :=
  ⟨h.numbered.congr rfl rfl rfl rfl rfl, ⟨fun _ hopen => (nomatch hopen), h.agreed.empty,
    h.agreed.unreleased, h.agreed.begun, h.agreed.rolledBack, h.agreed.refused, h.agreed.quieted,
    h.agreed.reading⟩⟩

/-- A new call is the latest one and waits for its reply. -/
lemma Numbered.callActor (h : s.Numbered) {command : Nat → PtyIoControlCommand}
    {controller : Controller} (hnumber : ∀ n, (command n).number = some n)
    (hbegins : controller = .beginning → command = .beginHandoff)
    (hrolls : ∀ inBegin, controller = .rollingBack inBegin → command = .rollbackHandoff) :
    (s.callActor command controller).Numbered := by
  have hcalls : (s.callActor command controller).calls = s.calls ++ [s.call + 1] := by
    unfold calls PtyIoActor.callActor
    dsimp only
    rw [List.filterMap_append, List.filterMap_cons, hnumber, List.filterMap_nil, List.append_assoc]
  have hmem : ∀ c ∈ s.controlQueue ++ [command (s.call + 1)], c.number = some (s.call + 1) →
      c = command (s.call + 1) := by
    intro c hc hlatest
    rcases List.mem_append.mp hc with hold | hnew
    · have hle := h.bounded (s.call + 1)
        (List.mem_append_right _ (List.mem_filterMap.mpr ⟨c, hold, hlatest⟩))
      omega
    · exact List.mem_singleton.mp hnew
  refine ⟨?_, ?_, fun hreply => (nomatch hreply), fun hbeginning c hc hlatest => ?_,
    fun inBegin hrolling => ⟨fun hlatest => ?_, fun c hc hlatest => ?_⟩⟩
  · rw [hcalls, List.pairwise_append]
    refine ⟨h.sorted, List.pairwise_singleton _ _, fun n hn m hm => ?_⟩
    rw [List.mem_singleton.mp hm]
    exact Nat.lt_succ_of_le (h.bounded n hn)
  · rw [hcalls]
    intro n hn
    rcases List.mem_append.mp hn with hold | hnew
    · exact Nat.le_succ_of_le (h.bounded n hold)
    · exact (List.mem_singleton.mp hnew).le
  · rw [hmem c hc hlatest, hbegins hbeginning]
    rfl
  · have hle := h.bounded (s.call + 1) (List.mem_append_left _ (Option.mem_toList.mpr hlatest))
    omega
  · rw [hmem c hc hlatest, hrolls inBegin hrolling]
    rfl

lemma Agreed.callActor (h : s.Agreed) {command : Nat → PtyIoControlCommand}
    (controller : Controller)
    (hopen : s.accepting = true → ∀ n, command (s.call + 1) ≠ .beginHandoff n)
    (hquiet : s.quiet = true → ∀ n, command (s.call + 1) ≠ .rollbackHandoff n) :
    (s.callActor command controller).Agreed := by
  refine ⟨fun hlive haccepting => ?_, h.empty, h.unreleased, fun _ _ hok => (nomatch hok),
    fun _ _ _ hok => (nomatch hok), fun _ _ _ hok => (nomatch hok), fun hlive hq => ?_, h.reading⟩
  · obtain ⟨hstate, hnone, hfree⟩ := h.opened hlive haccepting
    refine ⟨hstate, hnone, fun n hn => ?_⟩
    rcases List.mem_append.mp hn with hold | hnew
    · exact hfree n hold
    · exact hopen haccepting n (List.mem_singleton.mp hnew).symm
  · obtain ⟨hstate, hfree⟩ := h.quieted hlive hq
    refine ⟨hstate, fun n hn => ?_⟩
    rcases List.mem_append.mp hn with hold | hnew
    · exact hfree n hold
    · exact hquiet hq n (List.mem_singleton.mp hnew).symm

/-- A controller that waits for no reply. -/
lemma Handshake.setController (h : s.Handshake) {controller : Controller}
    (hbegins : controller ≠ .beginning) (hrolls : ∀ inBegin, controller ≠ .rollingBack inBegin) :
    Handshake { s with controller := controller } :=
  ⟨⟨h.numbered.sorted, h.numbered.bounded, h.numbered.answered,
      fun hbeginning => absurd hbeginning hbegins,
      fun inBegin hrolling => absurd hrolling (hrolls inBegin)⟩,
    ⟨h.agreed.opened, h.agreed.empty, h.agreed.unreleased,
      fun _ hbeginning => absurd hbeginning hbegins,
      fun _ inBegin hrolling => absurd hrolling (hrolls inBegin),
      fun _ inBegin hrolling => absurd hrolling (hrolls inBegin), h.agreed.quieted,
      h.agreed.reading⟩⟩

lemma controlClosed_spec (hclosed : s.controlClosed = true) : ¬s.Live := by
  unfold controlClosed at hclosed
  split at hclosed
  case h_1 cause hphase =>
    rw [Live, hphase]
    exact Option.some_ne_none cause
  case h_2 => cases hclosed

lemma agreed_of_not_live (hlive : ¬s.Live) : s.Agreed :=
  agreed_of_exit hlive

lemma Handshake.beginHandoff (h : s.Handshake) : s.beginHandoff.Handshake := by
  unfold PtyIoActor.beginHandoff
  split_ifs with hclosed
  · exact ⟨h.numbered.congr rfl rfl rfl rfl rfl, agreed_of_not_live (controlClosed_spec hclosed)⟩
  · have hshut : Handshake { s with
        accepting := false
        beginReturnedError := false } :=
      h.close.same ⟨rfl, rfl, rfl, rfl, rfl, rfl, rfl, rfl, rfl⟩
    refine ⟨hshut.numbered.callActor (fun _ => rfl) (fun _ => rfl)
      (fun _ hrolling => nomatch hrolling), hshut.agreed.callActor .beginning ?_ ?_⟩
    · exact fun hopen => nomatch hopen
    · exact fun _ _ hn => nomatch hn

lemma Handshake.beginReplied (h : s.Handshake) (hcontroller : s.controller = .beginning) {ok : Bool}
    (hreply : ok = true → s.reply = some true) : (s.beginReplied ok).Handshake := by
  unfold PtyIoActor.beginReplied
  cases ok with
  | false => exact h.setController (fun hb => nomatch hb) (fun _ hr => nomatch hr)
  | true =>
    have hidle : Handshake { s with controller := .idle } :=
      h.setController (fun hb => nomatch hb) (fun _ hr => nomatch hr)
    refine ⟨hidle.numbered.congr rfl rfl rfl rfl rfl, ⟨hidle.agreed.opened, hidle.agreed.empty,
      hidle.agreed.unreleased, hidle.agreed.begun, hidle.agreed.rolledBack, hidle.agreed.refused,
      fun hlive _ => ⟨h.agreed.begun hlive hcontroller (hreply rfl), fun n hn => ?_⟩,
      h.agreed.reading⟩⟩
    have hcalls := h.numbered.answered ((hreply rfl).symm ▸ rfl)
    have hmem : n ∈ s.calls :=
      List.mem_append_right _ (List.mem_filterMap.mpr ⟨.rollbackHandoff n, hn, rfl⟩)
    rw [hcalls] at hmem
    cases hmem

lemma Handshake.rollbackReturned (h : s.Handshake) (inBegin : Bool) :
    (s.rollbackReturned inBegin).Handshake := by
  have hidle : Handshake { s with controller := .idle } :=
    h.setController (fun hb => nomatch hb) (fun _ hr => nomatch hr)
  exact ⟨hidle.numbered.congr rfl rfl rfl rfl rfl, ⟨hidle.agreed.opened, hidle.agreed.empty,
    hidle.agreed.unreleased, hidle.agreed.begun, hidle.agreed.rolledBack, hidle.agreed.refused,
    hidle.agreed.quieted, hidle.agreed.reading⟩⟩

lemma Handshake.rollbackHandoff (h : s.Handshake) (inBegin : Bool) :
    (s.rollbackHandoff inBegin).Handshake := by
  have hloud : Handshake { s with quiet := false } :=
    ⟨h.numbered.congr rfl rfl rfl rfl rfl, ⟨h.agreed.opened, h.agreed.empty, h.agreed.unreleased,
      h.agreed.begun, h.agreed.rolledBack, h.agreed.refused, fun _ hquiet => (nomatch hquiet),
      h.agreed.reading⟩⟩
  unfold PtyIoActor.rollbackHandoff
  dsimp only
  split_ifs
  · exact hloud.rollbackReturned inBegin
  · exact ⟨hloud.numbered.callActor (fun _ => rfl) (fun hb => nomatch hb) (fun _ _ => rfl),
      hloud.agreed.callActor _ (fun _ n hn => nomatch hn) fun hquiet => nomatch hquiet⟩

lemma Handshake.rollbackReplied (h : s.Handshake) {inBegin ok : Bool}
    (hcontroller : s.controller = .rollingBack inBegin) (hreply : ok = true → s.reply = some true) :
    (s.rollbackReplied inBegin ok).Handshake := by
  unfold PtyIoActor.rollbackReplied
  cases ok with
  | false => exact h.rollbackReturned inBegin
  | true =>
    have hcalls := h.numbered.answered ((hreply rfl).symm ▸ rfl)
    have hopened : Handshake { s with accepting := true } := by
      refine ⟨h.numbered.congr rfl rfl rfl rfl rfl,
        ⟨fun hlive _ => ⟨h.agreed.rolledBack hlive inBegin hcontroller (hreply rfl), ?_,
          fun n hn => ?_⟩, h.agreed.empty, h.agreed.unreleased, h.agreed.begun,
        h.agreed.rolledBack, h.agreed.refused, h.agreed.quieted, h.agreed.reading⟩⟩
      · exact Option.toList_eq_nil_iff.mp (List.append_eq_nil_iff.mp hcalls).1
      · have hmem : n ∈ s.calls :=
          List.mem_append_right _ (List.mem_filterMap.mpr ⟨.beginHandoff n, hn, rfl⟩)
        rw [hcalls] at hmem
        cases hmem
    exact hopened.rollbackReturned inBegin

lemma start_handshake (initiallyQuiesced : Bool) : (start initiallyQuiesced).Handshake := by
  refine ⟨⟨List.Pairwise.nil, fun _ hn => (nomatch hn), fun _ => rfl, fun _ _ hc => (nomatch hc),
    fun _ hrolling => (nomatch hrolling)⟩, ⟨fun _ hopen => ?_, fun _ _ => rfl, fun _ => ?_,
    fun _ hbeginning => (nomatch hbeginning), fun _ _ hrolling => (nomatch hrolling),
    fun _ _ hrolling => (nomatch hrolling), fun _ hquiet => (nomatch hquiet),
    fun hread => nomatch hread⟩⟩
  · cases initiallyQuiesced with
    | true => cases hopen
    | false => exact ⟨rfl, rfl, fun _ hn => nomatch hn⟩
  · cases initiallyQuiesced <;> exact fun hreleased => nomatch hreleased

end

end PtyIoActor

open PtyIoActor

lemma PtyAction.Step.handshake {s s' : PtyIoActor} {a : PtyAction} (hs : a.Step s s')
    (h : s.Handshake) : s'.Handshake := by
  cases a with
  | reserve =>
    obtain ⟨-, -, -, rfl⟩ := hs
    exact h.same ⟨rfl, rfl, rfl, rfl, rfl, rfl, rfl, rfl, rfl⟩
  | sendReserved bytes =>
    obtain ⟨-, rfl⟩ := hs
    have hpermit : Handshake { s with permits := s.permits - 1 } :=
      h.same ⟨rfl, rfl, rfl, rfl, rfl, rfl, rfl, rfl, rfl⟩
    unfold PtyIoActor.sendReserved
    dsimp only
    split_ifs with hopen
    · exact hpermit.accept hopen bytes
    · exact hpermit
  | tryWriteUserInput bytes =>
    obtain ⟨-, rfl⟩ := hs
    unfold PtyIoActor.tryWriteUserInput
    split_ifs with hopen
    · rw [Bool.and_eq_true, Bool.and_eq_true] at hopen
      exact h.accept hopen.1.1 bytes
    · exact h
  | resize terminalResponses =>
    obtain ⟨-, rfl⟩ := hs
    exact h.same ⟨rfl, rfl, rfl, rfl, rfl, rfl, rfl, rfl, rfl⟩
  | nudgeChildRedrawAfterHandoff =>
    obtain ⟨-, rfl⟩ := hs
    exact h.same ⟨rfl, rfl, rfl, rfl, rfl, rfl, rfl, rfl, rfl⟩
  | foregroundProcessGroupId =>
    obtain ⟨-, -, rfl⟩ := hs
    exact h.queueCommand rfl
  | shutdownClose =>
    obtain ⟨-, rfl⟩ := hs
    exact h.close.same ⟨rfl, rfl, rfl, rfl, rfl, rfl, rfl, rfl, rfl⟩
  | shutdownSend =>
    obtain ⟨-, rfl⟩ := hs
    split_ifs
    · exact h.same ⟨rfl, rfl, rfl, rfl, rfl, rfl, rfl, rfl, rfl⟩
    · exact (h.queueCommand rfl).same ⟨rfl, rfl, rfl, rfl, rfl, rfl, rfl, rfl, rfl⟩
  | dropHandles =>
    obtain ⟨-, -, -, -, rfl⟩ := hs
    exact h.same ⟨rfl, rfl, rfl, rfl, rfl, rfl, rfl, rfl, rfl⟩
  | beginHandoff =>
    obtain ⟨-, -, rfl⟩ := hs
    exact h.beginHandoff
  | beginReplied =>
    obtain ⟨ok, hcontroller, hreply, rfl⟩ := hs
    exact h.beginReplied hcontroller fun hok => hok ▸ hreply
  | beginTimedOut =>
    obtain ⟨hcontroller, -, rfl⟩ := hs
    exact h.beginReplied hcontroller fun hok => nomatch hok
  | rollbackHandoff =>
    obtain ⟨-, ⟨-, rfl⟩ | ⟨-, rfl⟩⟩ := hs
    · exact h.rollbackHandoff false
    · exact h.rollbackHandoff true
  | rollbackReplied =>
    obtain ⟨inBegin, ok, hcontroller, hreply, rfl⟩ := hs
    exact h.rollbackReplied hcontroller fun hok => hok ▸ hreply
  | rollbackTimedOut =>
    obtain ⟨inBegin, hcontroller, -, rfl⟩ := hs
    exact h.rollbackReplied hcontroller fun hok => nomatch hok
  | duplicateForHandoff =>
    obtain ⟨-, -, rfl⟩ := hs
    split_ifs
    · exact h
    · exact ⟨h.numbered.callActor (fun _ => rfl) (fun hb => nomatch hb) (fun _ hr => nomatch hr),
        h.agreed.callActor _ (fun _ n hn => nomatch hn) fun _ n hn => nomatch hn⟩
  | duplicateReturned =>
    obtain ⟨-, rfl⟩ := hs
    exact h.setController (fun hb => nomatch hb) (fun _ hr => nomatch hr)
  | releaseClose =>
    obtain ⟨-, -, rfl⟩ := hs
    have hshut : Handshake { s with
        accepting := false
        beginReturnedError := false } :=
      h.close.same ⟨rfl, rfl, rfl, rfl, rfl, rfl, rfl, rfl, rfl⟩
    exact hshut.setController (fun hb => nomatch hb) (fun _ hr => nomatch hr)
  | releaseSend =>
    obtain ⟨-, rfl⟩ := hs
    split_ifs
    · exact h.setController (fun hb => nomatch hb) (fun _ hr => nomatch hr)
    · exact ⟨h.numbered.callActor (fun _ => rfl) (fun hb => nomatch hb) (fun _ hr => nomatch hr),
        h.agreed.callActor _ (fun _ n hn => nomatch hn) fun _ n hn => nomatch hn⟩
  | releaseReturned =>
    obtain ⟨-, rfl⟩ := hs
    exact h.setController (fun hb => nomatch hb) (fun _ hr => nomatch hr)
  | actor event => exact h.actorStep hs

end Ork3.Pty
