import Ork3.Library.History
import Ork3.Library.RowScan
import Ork3.Model.RenderStream

/-!
# The cursor of the host terminal

The shape of the cursor is left out where the encoder takes the terminal to have it. An encoder takes
it to have the shape of the last frame that was sent, and a new one the default shape, also where the
terminal still shows another.
-/

namespace Ork3.Render

open Ork3.Library

/-! ### What keeps the shape -/

section
variable (width : String → Nat) {ops : List TermOp} {t : HostTerminal}

/-- None of the sequences sets the shape of the cursor. -/
def KeepShape (ops : List TermOp) : Prop := ∀ shape, .setCursorShape shape ∉ ops

lemma HostTerminal.run_append (more : List TermOp) :
    t.run width (ops ++ more) = (t.run width ops).run width more := by
  unfold HostTerminal.run
  rw [List.foldl_append]

lemma HostTerminal.run_cons (op : TermOp) :
    t.run width (op :: ops) = (t.apply width op).run width ops := rfl

lemma KeepShape.run (h : KeepShape ops) : (t.run width ops).cursorShape = t.cursorShape := by
  induction ops generalizing t with
  | nil => rfl
  | cons op ops ih =>
    have hops : KeepShape ops := fun shape hmem => h shape (List.mem_cons_of_mem _ hmem)
    rw [HostTerminal.run_cons, ih hops]
    cases op with
    | setCursorShape shape => exact absurd List.mem_cons_self (h shape)
    | _ => rfl

lemma KeepShape.append {more : List TermOp} (h : KeepShape ops) (h' : KeepShape more) :
    KeepShape (ops ++ more) := by
  intro shape hmem
  rcases List.mem_append.mp hmem with hmem | hmem
  · exact h shape hmem
  · exact h' shape hmem

lemma keepShape_writeHyperlinkIfChanged (active requested : Option String) :
    KeepShape (writeHyperlinkIfChanged active requested).1 := by
  intro shape
  unfold writeHyperlinkIfChanged
  dsimp only
  by_cases hsame : active = requested.bind sanitizedHyperlinkUri
  · rw [if_pos hsame]
    simp
  · rw [if_neg hsame]
    cases active <;> cases requested.bind sanitizedHyperlinkUri <;> simp

lemma keepShape_closeHyperlink (active : Option String) : KeepShape (closeHyperlink active) := by
  intro shape
  cases active <;> simp [closeHyperlink]

lemma keepShape_paintCell {frame : FrameData} {row : Nat} {p : FullPaint} (h : KeepShape p.ops)
    (col : Nat) : KeepShape (paintCell width frame row p col).ops := by
  unfold paintCell
  by_cases hskip : p.toSkip > 0
  · rw [if_pos hskip]
    exact h
  rw [if_neg hskip]
  cases frame.cell row col with
  | none => exact h
  | some cell =>
    dsimp only
    by_cases hcell : cell.skip = true
    · rw [if_pos hcell]
      exact h
    rw [if_neg hcell]
    have hlink := keepShape_writeHyperlinkIfChanged p.activeHyperlink (cellHyperlinkUri frame cell)
    exact ((h.append (by simp [KeepShape])).append hlink).append (by simp [KeepShape])

lemma keepShape_writeAllCells (frame : FrameData) : KeepShape (writeAllCells width frame) := by
  have hrow : ∀ p : FullPaint, KeepShape p.ops → ∀ row, KeepShape (paintRow width frame p row).ops :=
    fun p hp row => foldl_range_invariant (fun _ (p : FullPaint) => KeepShape p.ops) hp
      fun col _ p hp => keepShape_paintCell width hp col
  have hrows := @foldl_range_invariant _ (paintRow width frame) ⟨[], none, 0⟩ frame.height
    (fun _ (p : FullPaint) => KeepShape p.ops) (by simp [KeepShape]) fun row _ p hp => hrow p hp row
  exact (hrows.append (keepShape_closeHyperlink _)).append (by simp [KeepShape])

lemma keepShape_writeCell {frame : FrameData} {row col : Nat} {cell : CellData} {p : DiffPaint}
    (h : KeepShape p.ops) : KeepShape (writeCell frame row col cell p).ops := by
  unfold writeCell
  by_cases hcell : cell.skip = true
  · rw [if_pos hcell]
    exact h
  rw [if_neg hcell]
  have hlink := keepShape_writeHyperlinkIfChanged p.activeHyperlink (cellHyperlinkUri frame cell)
  have hsgr : KeepShape (if buildSgr cell.fg cell.bg cell.modifier ≠ p.lastSgr then
      [.sgr (buildSgr cell.fg cell.bg cell.modifier)] else []) := by
    split_ifs <;> simp [KeepShape]
  exact (((h.append (by simp [KeepShape])).append hsgr).append hlink).append (by simp [KeepShape])

lemma keepShape_diffCell {frame prev : FrameData} {row : Nat} {p : DiffPaint} (h : KeepShape p.ops)
    (col : Nat) : KeepShape (diffCell width frame prev row p col).ops := by
  unfold diffCell
  cases frame.cell row col with
  | none => exact h
  | some cell =>
    cases prev.cell row col with
    | none => exact h
    | some prevCell =>
      dsimp only
      split_ifs
      · exact keepShape_writeCell h
      · exact h

lemma keepShape_writeChangedCells (frame prev : FrameData) :
    KeepShape (writeChangedCells width frame prev) := by
  have hrow : ∀ p : DiffPaint, KeepShape p.ops →
      ∀ row, KeepShape (diffRow width frame prev p row).ops :=
    fun p hp row => foldl_range_invariant (fun _ (p : DiffPaint) => KeepShape p.ops) hp
      fun col _ p hp => keepShape_diffCell width hp col
  have hrows := @foldl_range_invariant _ (diffRow width frame prev) ⟨[], "", none, 0, 0⟩ frame.height
    (fun _ (p : DiffPaint) => KeepShape p.ops) (by simp [KeepShape]) fun row _ p hp => hrow p hp row
  refine (hrows.append (keepShape_closeHyperlink _)).append ?_
  split_ifs <;> simp [KeepShape]

end

/-! ### The end of a frame -/

/-- The terminal shows the cursor in this state. -/
def HostTerminal.Shows (t : HostTerminal) (cursor : HostCursorState) : Prop :=
  t.cursor = (cursor.position.2, cursor.position.1) ∧ t.cursorVisible = cursor.visible ∧
    t.cursorShape = cursor.shape

/-- Where graphics leave the cursor. -/
def graphicsEnd (place : Nat × Nat) (graphics : List GraphicsOp) : Nat × Nat :=
  graphics.foldl (fun place op =>
    match op with
    | .moveTo row col => (row, col)
    | .image _ => place) place

section
variable (width : String → Nat) {t : HostTerminal}

lemma run_writeHostCursorState (cursor : HostCursorState) (lastShape : UInt8) :
    let t' := t.run width (writeHostCursorState cursor lastShape).1
    t'.cursor = (cursor.position.2, cursor.position.1) ∧ t'.cursorVisible = cursor.visible ∧
      t'.cursorShape = if cursor.shape ≠ lastShape then cursor.shape else t.cursorShape := by
  unfold writeHostCursorState
  by_cases hshape : cursor.shape ≠ lastShape
  · rw [if_pos hshape, if_pos hshape]
    cases hvisible : cursor.visible <;> exact ⟨rfl, rfl, rfl⟩
  · rw [if_neg hshape, if_neg hshape]
    cases hvisible : cursor.visible <;> exact ⟨rfl, rfl, rfl⟩

lemma run_graphics (graphics : List GraphicsOp) :
    let t' := t.run width (graphics.map GraphicsOp.toTermOp)
    t'.cursor = graphicsEnd t.cursor graphics ∧ t'.cursorVisible = t.cursorVisible ∧
      t'.cursorShape = t.cursorShape := by
  induction graphics generalizing t with
  | nil => exact ⟨rfl, rfl, rfl⟩
  | cons op graphics ih =>
    cases op with
    | moveTo row col => exact @ih (t.apply width (.moveTo row col))
    | image control => exact @ih (t.apply width (.image control))

lemma run_writeImeAnchorCursorState (cursor : HostCursorState) :
    let t' := t.run width (writeImeAnchorCursorState cursor)
    t'.cursor = (cursor.position.2, cursor.position.1) ∧ t'.cursorVisible = cursor.visible ∧
      t'.cursorShape = t.cursorShape := by
  unfold writeImeAnchorCursorState
  cases hvisible : cursor.visible <;> exact ⟨rfl, rfl, rfl⟩

lemma insertGraphicsBeforeSyncEnd_eq {before behind : List TermOp} (h : .endSync ∉ behind)
    (graphics : List GraphicsOp) :
    insertGraphicsBeforeSyncEnd (before ++ .endSync :: behind) graphics =
      before ++ graphics.map GraphicsOp.toTermOp ++ .endSync :: behind := by
  have hbehind : ∀ op ∈ behind.reverse, decide (op ≠ TermOp.endSync) = true := by
    intro op hop
    have hne : op ≠ .endSync := by
      rintro rfl
      exact h (List.mem_reverse.mp hop)
    exact decide_eq_true hne
  unfold insertGraphicsBeforeSyncEnd
  by_cases hempty : graphics.isEmpty = true
  · rw [if_pos hempty, List.isEmpty_iff.mp hempty, List.map_nil, List.append_nil]
  · rw [if_neg hempty, List.reverse_append, List.reverse_cons, List.append_assoc,
      List.takeWhile_append_of_pos hbehind, List.dropWhile_append_of_pos hbehind]
    simp

end

/-! ### Sending a prepared frame -/

/-- The shape that a frame asks for. -/
def FrameData.cursorShape (frame : FrameData) : UInt8 :=
  (frame.cursor.map fun cursor => normalizeCursorShape cursor.shape).getD 0

lemma shape_resolveHostCursorState (frame : FrameData) (lastVisible : Option (Nat × Nat)) :
    (resolveHostCursorState frame lastVisible).1.shape = frame.cursorShape := by
  unfold resolveHostCursorState FrameData.cursorShape
  cases frame.cursor with
  | none => rfl
  | some cursor => cases hvisible : cursor.visible <;> simp [hvisible]

section
variable (width : String → Nat) (repeatImeAnchor : Bool)

/-- A frame that the encoder prepares reaches this terminal with its cursor: the shape is sent, or it
is there already, and nothing moves the cursor behind its position. -/
def Reaches (encoder : BlitEncoder) (frame : FrameData) (t : HostTerminal) : Prop :=
  (frame.cursorShape = encoder.lastCursorShape → t.cursorShape = frame.cursorShape) ∧
    (repeatImeAnchor = true ∨
      let (x, y) := (resolveHostCursorState frame encoder.lastVisibleCursor).1.position
      graphicsEnd (y, x) frame.graphics = (y, x))

/-- What an encoder writes: cells, the cursor, the end of the update, and the cursor once more. -/
lemma encode_ops (encoder : BlitEncoder) (frame : FrameData) :
    ∃ cells, KeepShape cells ∧ (encoder.encode width repeatImeAnchor frame).ops =
      cells ++ (writeHostCursorState (resolveHostCursorState frame encoder.lastVisibleCursor).1
        encoder.lastCursorShape).1 ++ .endSync ::
      if repeatImeAnchor then
        writeImeAnchorCursorState (resolveHostCursorState frame encoder.lastVisibleCursor).1
      else [] := by
  have hlead : KeepShape [.beginSync, .hideCursor, .hyperlink none] := by simp [KeepShape]
  unfold BlitEncoder.encode blitFrame
  cases encoder.lastFrame.filter fun p => p.width = frame.width && p.height = frame.height with
  | none =>
    have hclear : KeepShape [.clearScreen, .moveTo 0 0] := by simp [KeepShape]
    refine ⟨_, hlead.append (hclear.append (keepShape_writeAllCells width frame)), ?_⟩
    simp
  | some prev =>
    refine ⟨_, hlead.append (keepShape_writeChangedCells width frame prev), ?_⟩
    simp

/-- What is prepared and sent shows the cursor of the frame exactly where the frame reaches the
terminal. -/
lemma shows_run_encode_iff (encoder : BlitEncoder) (frame : FrameData) (t : HostTerminal) :
    (t.run width (insertGraphicsBeforeSyncEnd (encoder.encode width repeatImeAnchor frame).ops
        frame.graphics)).Shows (resolveHostCursorState frame encoder.lastVisibleCursor).1 ↔
      Reaches repeatImeAnchor encoder frame t := by
  obtain ⟨cells, hcells, hops⟩ := encode_ops width repeatImeAnchor encoder frame
  have hshape := shape_resolveHostCursorState frame encoder.lastVisibleCursor
  rw [hops]
  unfold Reaches
  generalize (resolveHostCursorState frame encoder.lastVisibleCursor).1 = cursor at hshape ⊢
  have hbehind : TermOp.endSync ∉
      if repeatImeAnchor then writeImeAnchorCursorState cursor else [] := by
    unfold writeImeAnchorCursorState writeCursorPosition
    cases repeatImeAnchor <;> cases cursor.visible <;> simp
  rw [insertGraphicsBeforeSyncEnd_eq hbehind, HostTerminal.run_append, HostTerminal.run_append,
    HostTerminal.run_append, HostTerminal.run_cons]
  have hkept := hcells.run width (t := t)
  obtain ⟨hplace, hvisible, hsent⟩ :=
    run_writeHostCursorState width (t := t.run width cells) cursor encoder.lastCursorShape
  generalize (t.run width cells).run width
    (writeHostCursorState cursor encoder.lastCursorShape).1 = t₁ at hplace hvisible hsent ⊢
  obtain ⟨hplace₂, hvisible₂, hsent₂⟩ := run_graphics width (t := t₁) frame.graphics
  generalize t₁.run width (frame.graphics.map GraphicsOp.toTermOp) = t₂ at hplace₂ hvisible₂ hsent₂ ⊢
  have hsync : t₂.apply width .endSync = t₂ := rfl
  have hiff : (if cursor.shape ≠ encoder.lastCursorShape then cursor.shape else t.cursorShape) =
      cursor.shape ↔ (frame.cursorShape = encoder.lastCursorShape →
        t.cursorShape = frame.cursorShape) := by
    rw [hshape]
    by_cases hsame : frame.cursorShape = encoder.lastCursorShape
    · rw [if_neg (not_not.mpr hsame), forall_prop_of_true hsame]
    · rw [if_pos hsame]
      exact iff_of_true rfl fun h => absurd h hsame
  rw [hsync]
  cases repeatImeAnchor with
  | true =>
    obtain ⟨hplace₃, hvisible₃, hsent₃⟩ := run_writeImeAnchorCursorState width (t := t₂) cursor
    rw [if_pos rfl, HostTerminal.Shows, hplace₃, hvisible₃, hsent₃, hsent₂, hsent, hkept, hiff]
    simp
  | false =>
    rw [if_neg Bool.false_ne_true, HostTerminal.Shows]
    change t₂.cursor = _ ∧ t₂.cursorVisible = _ ∧ t₂.cursorShape = _ ↔ _
    rw [hplace₂, hvisible₂, hsent₂, hplace, hvisible, hsent, hkept, hiff]
    simp [and_comm]

end

/-! ### Streams -/

/-- The stream of a client and its terminal. What is prepared waits with the state that prepared it. -/
structure HostStream where
  render : ClientRenderState
  terminal : HostTerminal
  prepared : List (PreparedRender × ClientRenderState)

inductive StreamOp where
  | prepareFrame (frame : FrameData)
  /-- The prepared frame of this index is delivered. -/
  | commitSentFrame (i : Nat)
  | resetBaseline

def PreparedRender.ops : PreparedRender → List TermOp
  | .semantic _ => []
  | .terminalAnsi message _ _ => message.ops

namespace HostStream

def new (terminal : HostTerminal) : HostStream := ⟨.new .terminalAnsi, terminal, []⟩

section
variable (width : String → Nat) (repeatImeAnchor : Bool)

def step (s : HostStream) : StreamOp → HostStream
  | .prepareFrame frame =>
    match s.render.prepareFrame width repeatImeAnchor frame with
    | none => s
    | some prepared => { s with prepared := s.prepared ++ [(prepared, s.render)] }
  | .commitSentFrame i =>
    match s.prepared[i]? with
    | none => s
    | some (prepared, _) =>
      { render := s.render.commitSentFrame prepared
        terminal := s.terminal.run width prepared.ops
        prepared := s.prepared.eraseIdx i }
  | .resetBaseline => { s with render := s.render.resetBaseline }

def run (s : HostStream) (ops : List StreamOp) : HostStream :=
  ops.foldl (step width repeatImeAnchor) s

end

/-- After the prepared frame `i` is delivered, the terminal shows its cursor. -/
def Delivers (width : String → Nat) (repeatImeAnchor : Bool) (s : HostStream) (i : Nat) : Prop :=
  ∀ message frame encoded encoder seq,
    s.prepared[i]? = some (.terminalAnsi message frame encoded, .terminalAnsi encoder seq) →
    (s.step width repeatImeAnchor (.commitSentFrame i)).terminal.Shows
      (resolveHostCursorState frame encoder.lastVisibleCursor).1

end HostStream

/-! ### The history of a stream -/

/-- What was sent since the last reset: the last frame, and where a cursor was last visible. -/
structure Baseline where
  frame : Option FrameData
  lastVisible : Option (Nat × Nat)

namespace Baseline

def empty : Baseline := ⟨none, none⟩

/-- The shape of the last frame, or the default one. -/
def shape (b : Baseline) : UInt8 := (b.frame.map FrameData.cursorShape).getD 0

def send (b : Baseline) (frame : FrameData) : Baseline :=
  ⟨some frame, (resolveHostCursorState frame b.lastVisible).2⟩

/-- The encoder that has the baseline in memory. -/
def encoder (b : Baseline) : BlitEncoder := ⟨b.frame, b.lastVisible, b.shape⟩

lemma isCurrent_encoder {b : Baseline} {frame : FrameData} :
    b.encoder.isCurrent frame = true ↔ b.frame = some frame := decide_eq_true_iff

end Baseline

/-- The frames of a stream as its operations tell them: those that were prepared, each with the
baseline of that moment, and the one that was sent last, whatever was reset. -/
structure StreamHistory where
  baseline : Baseline
  prepared : List (FrameData × Baseline)
  lastSent : Option FrameData

namespace StreamHistory

def start : StreamHistory := ⟨.empty, [], none⟩

def step (h : StreamHistory) : StreamOp → StreamHistory
  | .prepareFrame frame =>
    if h.baseline.frame = some frame then h
    else { h with prepared := h.prepared ++ [(frame, h.baseline)] }
  | .commitSentFrame i =>
    match h.prepared[i]? with
    | none => h
    | some (frame, baseline) => ⟨baseline.send frame, h.prepared.eraseIdx i, some frame⟩
  | .resetBaseline => { h with baseline := .empty }

def run (ops : List StreamOp) : StreamHistory := ops.foldl step start

/-- The shape of the frame that was sent last, or the one the terminal had before. -/
def shownShape (h : StreamHistory) (initial : UInt8) : UInt8 :=
  (h.lastSent.map FrameData.cursorShape).getD initial

/-- The prepared frame `i` does not have the shape of its baseline unless the frame sent last has it,
and nothing moves the cursor behind its position. -/
def Deliverable (repeatImeAnchor : Bool) (initial : UInt8) (h : StreamHistory) (i : Nat) : Prop :=
  ∀ frame baseline, h.prepared[i]? = some (frame, baseline) →
    (frame.cursorShape = baseline.shape → h.shownShape initial = frame.cursorShape) ∧
      (repeatImeAnchor = true ∨
        let (x, y) := (resolveHostCursorState frame baseline.lastVisible).1.position
        graphicsEnd (y, x) frame.graphics = (y, x))

end StreamHistory

namespace HostStream

section
variable {width : String → Nat} {repeatImeAnchor : Bool} {s : HostStream} {h : StreamHistory}

/-- What an encoder prepares. -/
lemma prepareFrame_eq_some {encoder : BlitEncoder} {seq : Nat} {frame : FrameData}
    {prepared : PreparedRender} (hp : (ClientRenderState.terminalAnsi encoder seq).prepareFrame width
      repeatImeAnchor frame = some prepared) :
    ∃ message encoded, prepared = .terminalAnsi message frame encoded ∧
      message.ops = insertGraphicsBeforeSyncEnd
        (encoder.encode width repeatImeAnchor frame).ops frame.graphics ∧
      encoded.nextLastVisibleCursor = (resolveHostCursorState frame encoder.lastVisibleCursor).2 ∧
      encoded.nextLastCursorShape = frame.cursorShape := by
  unfold ClientRenderState.prepareFrame at hp
  dsimp only at hp
  split_ifs at hp
  cases hp
  exact ⟨_, _, rfl, rfl, rfl, shape_resolveHostCursorState frame encoder.lastVisibleCursor⟩

/-- The frame that was prepared over its baseline. -/
def PreparedFrom (width : String → Nat) (repeatImeAnchor : Bool) (entry : FrameData × Baseline)
    (p : PreparedRender × ClientRenderState) : Prop :=
  ∃ seq, p.2 = .terminalAnsi entry.2.encoder seq ∧
    p.2.prepareFrame width repeatImeAnchor entry.1 = some p.1

/-- The memory of the encoder, and of those that prepared the frames that wait, is their baseline. -/
structure Follows (width : String → Nat) (repeatImeAnchor : Bool) (h : StreamHistory)
    (s : HostStream) : Prop where
  render : ∃ seq, s.render = .terminalAnsi h.baseline.encoder seq
  prepared : List.Forall₂ (PreparedFrom width repeatImeAnchor) h.prepared s.prepared

lemma follows_new (terminal : HostTerminal) :
    Follows width repeatImeAnchor .start (new terminal) :=
  ⟨⟨0, rfl⟩, .nil⟩

/-- The two lists have an entry at the same indices, and the one was prepared from the other. -/
lemma Follows.getElem? (hf : Follows width repeatImeAnchor h s) (i : Nat) :
    (h.prepared[i]? = none ∧ s.prepared[i]? = none) ∨
      ∃ entry p, h.prepared[i]? = some entry ∧ s.prepared[i]? = some p ∧
        PreparedFrom width repeatImeAnchor entry p := by
  have hlength := hf.prepared.length_eq
  by_cases hi : i < h.prepared.length
  · have hi' : i < s.prepared.length := hlength ▸ hi
    exact .inr ⟨_, _, List.getElem?_eq_getElem hi, List.getElem?_eq_getElem hi',
      hf.prepared.get hi hi'⟩
  · have hi' : ¬i < s.prepared.length := hlength ▸ hi
    exact .inl ⟨List.getElem?_eq_none (Nat.le_of_not_lt hi),
      List.getElem?_eq_none (Nat.le_of_not_lt hi')⟩

lemma Follows.step (hf : Follows width repeatImeAnchor h s) (op : StreamOp) :
    Follows width repeatImeAnchor (h.step op) (s.step width repeatImeAnchor op) := by
  obtain ⟨seq, hrender⟩ := hf.render
  cases op with
  | prepareFrame frame =>
    unfold StreamHistory.step HostStream.step
    dsimp only
    rw [hrender]
    by_cases hcurrent : h.baseline.frame = some frame
    · have hskip : (ClientRenderState.terminalAnsi h.baseline.encoder seq).prepareFrame width
          repeatImeAnchor frame = none := if_pos (Baseline.isCurrent_encoder.mpr hcurrent)
      rw [if_pos hcurrent, hskip]
      exact hf
    · rw [if_neg hcurrent]
      cases hp : (ClientRenderState.terminalAnsi h.baseline.encoder seq).prepareFrame width
          repeatImeAnchor frame with
      | none =>
        unfold ClientRenderState.prepareFrame at hp
        dsimp only at hp
        rw [if_neg (mt Baseline.isCurrent_encoder.mp hcurrent)] at hp
        cases hp
      | some prepared =>
        refine ⟨⟨seq, rfl⟩, ?_⟩
        exact List.rel_append hf.prepared (.cons ⟨seq, rfl, hp⟩ .nil)
  | commitSentFrame i =>
    unfold StreamHistory.step HostStream.step
    dsimp only
    rcases hf.getElem? i with ⟨hnone, hnone'⟩ | ⟨⟨frame, baseline⟩, ⟨prepared, state⟩, hi, hi', hfrom⟩
    · rw [hnone, hnone']
      exact hf
    · rw [hi, hi']
      obtain ⟨seq', rfl, hp⟩ := hfrom
      obtain ⟨message, encoded, rfl, -, hvisible, hshape⟩ := prepareFrame_eq_some hp
      refine ⟨⟨seq + 1, ?_⟩, ?_⟩
      · rw [hrender]
        change ClientRenderState.terminalAnsi
          ⟨some frame, encoded.nextLastVisibleCursor, encoded.nextLastCursorShape⟩ _ = _
        rw [hvisible, hshape]
        rfl
      · dsimp only
        rw [List.eraseIdx_eq_take_drop_succ, List.eraseIdx_eq_take_drop_succ]
        exact List.rel_append (List.forall₂_take i hf.prepared)
          (List.forall₂_drop (i + 1) hf.prepared)
  | resetBaseline =>
    refine ⟨⟨seq, ?_⟩, hf.prepared⟩
    change s.render.resetBaseline = _
    rw [hrender]
    rfl

/-- While the terminal has the shape of the frame that was sent last, a frame is delivered with its
cursor exactly if it is deliverable. -/
lemma delivers_iff_deliverable (hf : Follows width repeatImeAnchor h s) {initial : UInt8}
    (hshown : h.shownShape initial = s.terminal.cursorShape) (i : Nat) :
    s.Delivers width repeatImeAnchor i ↔ h.Deliverable repeatImeAnchor initial i := by
  unfold Delivers StreamHistory.Deliverable
  rcases hf.getElem? i with ⟨hnone, hnone'⟩ | ⟨⟨frame, baseline⟩, ⟨prepared, state⟩, hi, hi', hfrom⟩
  · simp [hnone, hnone']
  · obtain ⟨seq, rfl, hp⟩ := hfrom
    obtain ⟨message, encoded, rfl, hops, -, -⟩ := prepareFrame_eq_some hp
    have hterminal : (s.step width repeatImeAnchor (.commitSentFrame i)).terminal =
        s.terminal.run width message.ops := by
      simp only [HostStream.step, hi']
      rfl
    have hshows := shows_run_encode_iff width repeatImeAnchor baseline.encoder frame s.terminal
    rw [hterminal, hops, hi, hi', hshown]
    constructor
    · intro hall frame' baseline' heq
      cases heq
      exact hshows.mp (hall _ _ _ _ _ rfl)
    · intro hall message' frame' encoded' encoder' seq' heq
      cases heq
      exact hshows.mpr (hall _ _ rfl)

/-- A frame that is delivered leaves its shape. -/
lemma shownShape_step (hf : Follows width repeatImeAnchor h s) {initial : UInt8}
    (hshown : h.shownShape initial = s.terminal.cursorShape) {op : StreamOp}
    (hdelivers : ∀ i, op = .commitSentFrame i → s.Delivers width repeatImeAnchor i) :
    (h.step op).shownShape initial = (s.step width repeatImeAnchor op).terminal.cursorShape := by
  cases op with
  | prepareFrame frame =>
    have hkept : (h.step (.prepareFrame frame)).lastSent = h.lastSent := by
      unfold StreamHistory.step
      dsimp only
      split <;> rfl
    have hterminal : (s.step width repeatImeAnchor (.prepareFrame frame)).terminal = s.terminal := by
      unfold HostStream.step
      dsimp only
      split <;> rfl
    unfold StreamHistory.shownShape
    rw [hkept, hterminal]
    exact hshown
  | commitSentFrame i =>
    rcases hf.getElem? i with ⟨hnone, hnone'⟩ | ⟨⟨frame, baseline⟩, ⟨prepared, state⟩, hi, hi', hfrom⟩
    · have hkept : h.step (.commitSentFrame i) = h := by
        simp only [StreamHistory.step, hnone]
      have hkept' : s.step width repeatImeAnchor (.commitSentFrame i) = s := by
        simp only [HostStream.step, hnone']
      rw [hkept, hkept']
      exact hshown
    · obtain ⟨seq, rfl, hp⟩ := hfrom
      obtain ⟨message, encoded, rfl, -, -, -⟩ := prepareFrame_eq_some hp
      obtain ⟨-, -, hshape⟩ := hdelivers i rfl _ _ _ _ _ hi'
      rw [hshape, shape_resolveHostCursorState]
      simp only [StreamHistory.step, hi]
      rfl
  | resetBaseline => exact hshown

end

/-- `P` holds at every commit, of the operations before it and its index. -/
def AtCommits (P : List StreamOp → Nat → Prop) (ops : List StreamOp) : Prop :=
  ∀ before i after, ops = before ++ .commitSentFrame i :: after → P before i

lemma atCommits_iff {P : List StreamOp → Nat → Prop} {ops : List StreamOp} :
    AtCommits P ops ↔ AllSteps (fun before op => ∀ i, op = .commitSentFrame i → P before i) ops := by
  constructor
  · rintro h before op ⟨after, rfl⟩ i rfl
    exact h before i after (by simp)
  · rintro h before i after rfl
    exact h before _ ⟨after, by simp⟩ i rfl

lemma atCommits_concat {P : List StreamOp → Nat → Prop} {ops : List StreamOp} {op : StreamOp} :
    AtCommits P (ops ++ [op]) ↔ AtCommits P ops ∧ ∀ i, op = .commitSentFrame i → P ops i := by
  rw [atCommits_iff, allSteps_concat, ← atCommits_iff]

/-- In a run of a new stream the terminal shows the cursor of every frame that is delivered, exactly
if no frame of the shape of its baseline is sent to a terminal with another shape, and none moves the
cursor behind its position. -/
theorem delivers_iff (width : String → Nat) (repeatImeAnchor : Bool) (terminal : HostTerminal)
    (ops : List StreamOp) :
    AtCommits (fun before => ((new terminal).run width repeatImeAnchor before).Delivers width
        repeatImeAnchor) ops ↔
      AtCommits (fun before => (StreamHistory.run before).Deliverable repeatImeAnchor
        terminal.cursorShape) ops := by
  have hfollows (ops : List StreamOp) : Follows width repeatImeAnchor (.run ops)
      ((new terminal).run width repeatImeAnchor ops) := by
    induction ops using List.reverseRecOn with
    | nil => exact follows_new terminal
    | append_singleton ops op ih =>
      unfold StreamHistory.run HostStream.run
      rw [List.foldl_concat, List.foldl_concat]
      exact ih.step op
  -- As long as everything was delivered the terminal has the shape of the frame sent last.
  suffices hboth : (AtCommits (fun before => ((new terminal).run width repeatImeAnchor
        before).Delivers width repeatImeAnchor) ops ↔
      AtCommits (fun before => (StreamHistory.run before).Deliverable repeatImeAnchor
        terminal.cursorShape) ops) ∧
      (AtCommits (fun before => ((new terminal).run width repeatImeAnchor before).Delivers width
          repeatImeAnchor) ops →
        (StreamHistory.run ops).shownShape terminal.cursorShape =
          ((new terminal).run width repeatImeAnchor ops).terminal.cursorShape) from hboth.1
  induction ops using List.reverseRecOn with
  | nil =>
    refine ⟨iff_of_true ?_ ?_, fun _ => rfl⟩
    · intro before i after heq
      simp at heq
    · intro before i after heq
      simp at heq
  | append_singleton ops op ih =>
    obtain ⟨hiff, hshown⟩ := ih
    rw [atCommits_concat, atCommits_concat, ← hiff]
    constructor
    · apply and_congr_right
      intro hdelivered
      apply forall_congr'
      intro i
      apply imp_congr_right
      intro _
      exact delivers_iff_deliverable (hfollows ops) (hshown hdelivered) i
    · rintro ⟨hdelivered, hlast⟩
      unfold StreamHistory.run HostStream.run
      rw [List.foldl_concat, List.foldl_concat]
      exact shownShape_step (hfollows ops) (hshown hdelivered) hlast

/-- A frame of one blank cell. -/
def blankFrame (cursor : Option CursorState) : FrameData where
  cells := [⟨" ", 0, 0, 0, false, none⟩]
  width := 1
  height := 1
  cursor := cursor
  hyperlinks := []
  graphics := []
  cells_length := rfl

/-- A block behind a bar and a reset is not the default shape, and reaches the terminal. -/
example : ((new ⟨fun _ _ => .blank, (0, 0), true, 0, "", none⟩).run (fun _ => 1) true
    [.prepareFrame (blankFrame (some ⟨0, 0, true, 5⟩)), .commitSentFrame 0, .resetBaseline,
      .prepareFrame (blankFrame (some ⟨0, 0, true, 2⟩)), .commitSentFrame 0]).terminal.cursorShape =
    2 := by
  decide +kernel

/-- Behind a bar, the next frame of a new baseline asks for the default shape and does not get it. -/
theorem not_delivers_after_resetBaseline :
    ¬ ∀ (width : String → Nat) (repeatImeAnchor : Bool) (terminal : HostTerminal)
      (ops before after : List StreamOp) (i : Nat), ops = before ++ .commitSentFrame i :: after →
      ((new terminal).run width repeatImeAnchor before).Delivers width repeatImeAnchor i := by
  intro h
  have hshows := h (fun _ => 1) true ⟨fun _ _ => .blank, (0, 0), true, 0, "", none⟩ _
    [.prepareFrame (blankFrame (some ⟨0, 0, true, 5⟩)), .commitSentFrame 0, .resetBaseline,
      .prepareFrame (blankFrame none)] [] 0 rfl _ _ _ _ _ rfl
  exact absurd hshows.2.2 (by decide +kernel)

end HostStream

end Ork3.Render
