import Ork3.Model.ClientWriterQueue

/-!
# Every accepted message is handed to the writer once

At every moment the accepted messages of a class are those handed to the writer followed by those
still in the queue, and the writer never sleeps while one of them waits.
-/

namespace Ork3.Server

open Ork3.Library

namespace ClientChannel

/-- The control messages among the items, in order. -/
def controlOf (items : List ClientWriteItem) : List (List UInt8) :=
  items.filterMap fun
    | .control data => some data
    | .render _ => none

/-- The renders among the items, in order. -/
def renderOf (items : List ClientWriteItem) : List (List UInt8) :=
  items.filterMap fun
    | .control _ => none
    | .render data => some data

/-- Nothing waits in the queue. -/
def Drained (s : ClientChannel) : Prop := s.queue.control = [] ∧ s.queue.render = none

/-- The writer left its loop. -/
def Stopped (s : ClientChannel) : Prop := s.phase = .closing ∨ s.phase = .exited

structure Consistent (s : ClientChannel) : Prop where
  control : s.acceptedControl = controlOf s.handed ++ s.queue.control
  render : s.acceptedRender = renderOf s.handed ++ s.queue.render.toList
  alive : s.queue.writerAlive = false ↔ s.phase = .exited
  asleep : s.phase = .waiting → s.Drained ∧ 0 < s.queue.senders
  finished : s.Stopped → s.writeFailed = false → s.Drained ∧ s.queue.senders = 0

lemma consistent_start : Consistent start where
  control := rfl
  render := rfl
  alive := by simp [start, ClientWriterQueueState.new, ClientWriterQueueState.addSender]
  asleep := by simp [start]
  finished := by simp [start, Stopped]

section
variable {s t : ClientChannel}

lemma notify_ne_waiting (phase : WriterPhase) : phase.notify ≠ .waiting := by
  cases phase <;> simp [WriterPhase.notify]

lemma notify_eq_exited {phase : WriterPhase} : phase.notify = .exited ↔ phase = .exited := by
  cases phase <;> simp [WriterPhase.notify]

lemma notify_eq_closing {phase : WriterPhase} : phase.notify = .closing ↔ phase = .closing := by
  cases phase <;> simp [WriterPhase.notify]

/-- A send with a live handle finds the writer in its loop or after a failed write. -/
lemma Consistent.not_finished (h : s.Consistent) (hsenders : 0 < s.queue.senders)
    (hstopped : s.Stopped) : s.writeFailed = true := by
  by_contra hfailed
  have := (h.finished hstopped (by simpa using hfailed)).2
  omega

lemma Consistent.sendControl (h : s.Consistent) (hsenders : 0 < s.queue.senders)
    (data : List UInt8) : (s.sendControl data).Consistent := by
  unfold ClientChannel.sendControl ClientWriterQueueState.sendControl
  by_cases halive : s.queue.writerAlive = true
  · rw [if_neg (by simp [halive])]
    exact {
      control := by simp [h.control]
      render := h.render
      alive := by simpa [notify_eq_exited] using h.alive
      asleep := fun hw => absurd hw (notify_ne_waiting _)
      finished := by
        intro hstopped hfailed
        have hstopped : s.Stopped := by
          simpa [Stopped, notify_eq_exited, notify_eq_closing] using hstopped
        have := h.not_finished hsenders hstopped
        simp_all }
  · rw [if_pos (by simpa using halive)]
    exact h

lemma Consistent.trySendRender (h : s.Consistent) (hsenders : 0 < s.queue.senders)
    (data : List UInt8) : (s.trySendRender data).Consistent := by
  unfold ClientChannel.trySendRender ClientWriterQueueState.trySendRender
  by_cases halive : s.queue.writerAlive = true
  · rw [if_neg (by simp [halive])]
    cases hrender : s.queue.render with
    | some pending => exact h
    | none =>
      exact {
        control := h.control
        render := by simp [h.render, hrender]
        alive := by simpa [notify_eq_exited] using h.alive
        asleep := fun hw => absurd hw (notify_ne_waiting _)
        finished := by
          intro hstopped hfailed
          have hstopped : s.Stopped := by
            simpa [Stopped, notify_eq_exited, notify_eq_closing] using hstopped
          have := h.not_finished hsenders hstopped
          simp_all }
  · rw [if_pos (by simpa using halive)]
    exact h

/-- What a pass of `recv` does, by what waits in the queue. -/
lemma receive_cases (s : ClientChannel) :
    (∃ data rest, s.queue.control = data :: rest ∧ s.receive =
      { s with
        queue := { s.queue with control := rest }
        phase := .writing (.control data)
        handed := s.handed ++ [.control data] }) ∨
    (∃ data, s.queue.control = [] ∧ s.queue.render = some data ∧ s.receive =
      { s with
        queue := { s.queue with render := none }
        phase := .writing (.render data)
        handed := s.handed ++ [.render data] }) ∨
    (s.Drained ∧ s.queue.senders = 0 ∧ s.receive = { s with phase := .closing }) ∨
    (s.Drained ∧ 0 < s.queue.senders ∧ s.receive = { s with phase := .waiting }) := by
  unfold receive ClientWriterQueueState.recvPass Drained
  cases hcontrol : s.queue.control with
  | cons data rest => exact .inl ⟨data, rest, rfl, rfl⟩
  | nil =>
    cases hrender : s.queue.render with
    | some data => exact .inr (.inl ⟨data, rfl, rfl, by simp [hcontrol]⟩)
    | none =>
      by_cases hsenders : s.queue.senders = 0
      · exact .inr (.inr (.inl ⟨⟨rfl, rfl⟩, hsenders, by simp [hsenders]⟩))
      · exact .inr (.inr (.inr ⟨⟨rfl, rfl⟩, Nat.pos_of_ne_zero hsenders, by simp [hsenders]⟩))

lemma Consistent.receive (h : s.Consistent) (hphase : s.phase = .receiving) :
    s.receive.Consistent := by
  have halive : s.queue.writerAlive = true := by
    by_contra hdead
    have := h.alive.mp (by simpa using hdead)
    simp [hphase] at this
  obtain ⟨data, rest, hcontrol, heq⟩ | ⟨data, -, hrender, heq⟩ | ⟨hdrained, hsenders, heq⟩ |
    ⟨hdrained, hsenders, heq⟩ := s.receive_cases
  · rw [heq]
    exact {
      control := by simp [h.control, hcontrol, controlOf]
      render := by simp [h.render, renderOf]
      alive := by simp [halive]
      asleep := by simp
      finished := by simp [Stopped] }
  · rw [heq]
    exact {
      control := by simp [h.control, controlOf]
      render := by simp [h.render, hrender, renderOf]
      alive := by simp [halive]
      asleep := by simp
      finished := by simp [Stopped] }
  · rw [heq]
    exact {
      control := h.control
      render := h.render
      alive := by simp [halive]
      asleep := by simp
      finished := fun _ _ => ⟨hdrained, hsenders⟩ }
  · rw [heq]
    exact {
      control := h.control
      render := h.render
      alive := by simp [halive]
      asleep := fun _ => ⟨hdrained, hsenders⟩
      finished := by simp [Stopped] }

lemma Consistent.write (h : s.Consistent) {item : ClientWriteItem}
    (hphase : s.phase = .writing item) (succeeds : Bool) : (s.write item succeeds).Consistent := by
  have halive : s.queue.writerAlive = true := by
    by_contra hdead
    have := h.alive.mp (by simpa using hdead)
    simp [hphase] at this
  obtain ⟨hcontrol, hrender, -, -, -⟩ := h
  unfold ClientChannel.write
  constructor <;> cases item <;> cases succeeds <;> simp_all [Stopped]

/-- Every action keeps the accounts and the wake-ups. -/
lemma Consistent.step {action : ChannelAction} (h : s.Consistent) (hstep : Step s action t) :
    t.Consistent := by
  cases hstep with
  | sendControl data hsenders => exact h.sendControl hsenders data
  | trySendRender data hsenders => exact h.trySendRender hsenders data
  | cloneSender hsenders =>
    exact {
      control := h.control
      render := h.render
      alive := h.alive
      asleep := fun hw => ⟨(h.asleep hw).1, Nat.succ_pos _⟩
      finished := fun hstopped hfailed => by
        have hfailed : s.writeFailed = false := hfailed
        simp [h.not_finished hsenders hstopped] at hfailed }
  | dropSender hsenders =>
    exact {
      control := h.control
      render := h.render
      alive := h.alive.trans notify_eq_exited.symm
      asleep := fun hw => absurd hw (notify_ne_waiting _)
      finished := fun hstopped hfailed => by
        have hstopped : s.Stopped := by
          simpa [Stopped, notify_eq_exited, notify_eq_closing] using hstopped
        have hfailed : s.writeFailed = false := hfailed
        simp [h.not_finished hsenders hstopped] at hfailed }
  | wake hphase =>
    exact {
      control := h.control
      render := h.render
      alive := by simpa [hphase] using h.alive
      asleep := by simp
      finished := by simp [Stopped] }
  | receive hphase => exact h.receive hphase
  | write item succeeds hphase => exact h.write hphase succeeds
  | close hphase =>
    exact {
      control := h.control
      render := h.render
      alive := by simp [ClientWriterQueueState.closeWriter]
      asleep := by simp
      finished := fun _ hfailed => h.finished (.inl hphase) hfailed }

lemma Consistent.of_run {actions : List ChannelAction} (hrun : Run Step start actions s) :
    s.Consistent :=
  hrun.invariant (fun _ _ _ h hstep => h.step hstep) consistent_start

/-! ### The writer on its own -/

/-- What the writer does when its writes succeed. -/
def writerActions : List ChannelAction := [.receive, .write true]

/-- The messages in the queue. -/
def pending (s : ClientChannel) : Nat := s.queue.control.length + s.queue.render.toList.length

/-- A writer before a pass of `recv` hands out everything that is pending. -/
lemma drains_of_receiving (n : Nat) (hn : s.pending = n) (hphase : s.phase = .receiving) :
    ∃ actions t, (∀ a ∈ actions, a ∈ writerActions) ∧ Run Step s actions t ∧ t.Drained ∧
      t.acceptedControl = s.acceptedControl ∧ t.acceptedRender = s.acceptedRender := by
  induction n generalizing s with
  | zero =>
    have hcontrol : s.queue.control = [] := by
      apply List.length_eq_zero_iff.mp
      unfold pending at hn
      omega
    have hrender : s.queue.render = none := by
      have : s.queue.render.toList.length = 0 := by
        unfold pending at hn
        omega
      cases h : s.queue.render <;> simp_all
    exact ⟨[], s, by simp, .nil s, ⟨hcontrol, hrender⟩, rfl, rfl⟩
  | succ n ih =>
    -- One item is taken and written, and the writer is back before a pass.
    have hstep : ∃ item, s.receive.phase = .writing item ∧
        (s.receive.write item true).pending = n ∧
        s.receive.acceptedControl = s.acceptedControl ∧
        s.receive.acceptedRender = s.acceptedRender := by
      unfold pending at hn
      obtain ⟨data, rest, hcontrol, heq⟩ | ⟨data, hcontrol, hrender, heq⟩ |
        ⟨⟨hcontrol, hrender⟩, -, -⟩ | ⟨⟨hcontrol, hrender⟩, -, -⟩ := s.receive_cases
      · rw [heq]
        refine ⟨_, rfl, ?_, rfl, rfl⟩
        simp only [hcontrol, List.length_cons] at hn
        simp only [ClientChannel.write, if_true, pending]
        omega
      · rw [heq]
        refine ⟨_, rfl, ?_, rfl, rfl⟩
        simpa [hcontrol, hrender, ClientChannel.write, pending, eq_comm] using hn
      · simp [hcontrol, hrender] at hn
      · simp [hcontrol, hrender] at hn
    obtain ⟨item, hwriting, hpending, hsame⟩ := hstep
    have hwritten : (s.receive.write item true).phase = .receiving := by
      cases item <;> rfl
    obtain ⟨actions, t, hactions, hrun, hdrained, haccepted⟩ := ih hpending hwritten
    have hkeep : (s.receive.write item true).acceptedControl = s.receive.acceptedControl ∧
        (s.receive.write item true).acceptedRender = s.receive.acceptedRender := by
      cases item <;> exact ⟨rfl, rfl⟩
    refine ⟨.receive :: .write true :: actions, t, ?_,
      .cons (.receive s hphase) (.cons (.write _ item true hwriting) hrun), hdrained,
      haccepted.1.trans (hkeep.1.trans hsame.1), haccepted.2.trans (hkeep.2.trans hsame.2)⟩
    simpa [writerActions] using hactions

/-- A writer that did not stop hands out everything that is pending. -/
lemma Consistent.drains (h : s.Consistent) (hstopped : ¬s.Stopped) :
    ∃ actions t, (∀ a ∈ actions, a ∈ writerActions) ∧ Run Step s actions t ∧ t.Drained ∧
      t.acceptedControl = s.acceptedControl ∧ t.acceptedRender = s.acceptedRender := by
  cases hphase : s.phase with
  | receiving => exact drains_of_receiving _ rfl hphase
  | waiting => exact ⟨[], s, by simp, .nil s, (h.asleep hphase).1, rfl, rfl⟩
  | writing item =>
    have hwritten : (s.write item true).phase = .receiving := by
      cases item <;> rfl
    obtain ⟨actions, t, hactions, hrun, hdrained, haccepted⟩ := drains_of_receiving _ rfl hwritten
    have hkeep : (s.write item true).acceptedControl = s.acceptedControl ∧
        (s.write item true).acceptedRender = s.acceptedRender := by
      cases item <;> exact ⟨rfl, rfl⟩
    refine ⟨.write true :: actions, t, ?_, .cons (.write s item true hphase) hrun, hdrained,
      haccepted.1.trans hkeep.1, haccepted.2.trans hkeep.2⟩
    simpa [writerActions] using hactions
  | closing => exact absurd (.inl hphase) hstopped
  | exited => exact absurd (.inr hphase) hstopped

/-- Whatever the order of sends, takes, wake-ups and dropped handles: the accepted messages of each
class are, in order, those handed to the writer and then those in the queue, of which at most one is
a render; the writer sleeps only when nothing waits; as long as it runs, it hands out everything
accepted so far; and when it stops without a failed write, nothing is left. -/
theorem accepted_handed_once {actions : List ChannelAction} (hrun : Run Step start actions s) :
    s.acceptedControl = controlOf s.handed ++ s.queue.control ∧
    s.acceptedRender = renderOf s.handed ++ s.queue.render.toList ∧
    s.acceptedRender.length ≤ (renderOf s.handed).length + 1 ∧
    (s.phase = .waiting → s.Drained) ∧
    (¬s.Stopped → ∃ more t, (∀ a ∈ more, a ∈ writerActions) ∧ Run Step s more t ∧
      controlOf t.handed = s.acceptedControl ∧ renderOf t.handed = s.acceptedRender) ∧
    (s.Stopped → s.writeFailed = false → s.Drained) := by
  have h := Consistent.of_run hrun
  refine ⟨h.control, h.render, ?_, fun hw => (h.asleep hw).1, ?_,
    fun hstopped hfailed => (h.finished hstopped hfailed).1⟩
  · rw [h.render, List.length_append]
    cases s.queue.render <;> simp
  · intro hstopped
    obtain ⟨more, t, hmore, hmoreRun, ⟨hcontrol, hrender⟩, hsame⟩ := h.drains hstopped
    have ht := Consistent.of_run (hrun.append hmoreRun)
    refine ⟨more, t, hmore, hmoreRun, ?_, ?_⟩
    · rw [← hsame.1, ht.control, hcontrol, List.append_nil]
    · rw [← hsame.2, ht.render, hrender]
      simp

/-- A control message and a render are both taken, and a second render waits. -/
theorem control_taken_before_render :
    ∃ s, Run Step start [.trySendRender [1], .sendControl [2], .receive, .write true, .receive,
        .trySendRender [3]] s ∧
      controlOf s.handed = [[2]] ∧ s.queue.render = some [3] ∧
      s.acceptedRender = renderOf s.handed ++ s.queue.render.toList := by
  have hrun : Run Step start [.trySendRender [1], .sendControl [2], .receive, .write true, .receive,
      .trySendRender [3]] _ :=
    .cons (.trySendRender _ [1] (by decide)) (.cons (.sendControl _ [2] (by decide))
      (.cons (.receive _ rfl) (.cons (.write _ (.control [2]) true rfl) (.cons (.receive _ rfl)
        (.cons (.trySendRender _ [3] (by decide)) (.nil _))))))
  exact ⟨_, hrun, rfl, rfl, (accepted_handed_once hrun).2.1⟩

end

end ClientChannel

end Ork3.Server
