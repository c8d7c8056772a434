import Ork3.Library.RowScan
import Ork3.Model.RenderAnsi

/-!
# The places that are printed

The full writer prints where a glyph starts. The writer of changes looks at the cell before instead,
also where that cell is covered and was never printed.
-/

namespace Ork3.Render

open Ork3.Library

/-! ### Printing -/

/-- The places at which sequences print: each the target of the last move. -/
def printedFrom : Option (Nat × Nat) → List TermOp → List (Nat × Nat)
  | _, [] => []
  | _, .moveTo row col :: ops => printedFrom (some (row, col)) ops
  | some place, .print _ :: ops => place :: printedFrom none ops
  | place, _ :: ops => printedFrom place ops

def printed (ops : List TermOp) : List (Nat × Nat) := printedFrom none ops

/-- Neither moves nor prints. -/
def TermOp.Quiet : TermOp → Prop
  | .moveTo _ _ => False
  | .print _ => False
  | _ => True

section
variable {ops mids : List TermOp} {place : Option (Nat × Nat)} {row col : Nat}

lemma printedFrom_append_moveTo (rest : List TermOp) :
    printedFrom place (ops ++ .moveTo row col :: rest) =
      printedFrom place ops ++ printedFrom (some (row, col)) rest := by
  induction ops generalizing place with
  | nil => cases place <;> rfl
  | cons op ops ih =>
    cases op with
    | print symbol =>
      cases place with
      | none => exact ih
      | some place => exact congrArg (place :: ·) ih
    | moveTo row' col' => cases place <;> exact ih
    | _ => cases place <;> exact ih

lemma printedFrom_quiet_append (hmids : ∀ op ∈ mids, op.Quiet) (rest : List TermOp) :
    printedFrom place (mids ++ rest) = printedFrom place rest := by
  induction mids with
  | nil => rfl
  | cons op mids ih =>
    have hop := hmids op List.mem_cons_self
    have hrest := ih fun op hmem => hmids op (List.mem_cons_of_mem _ hmem)
    cases op with
    | print symbol => exact hop.elim
    | moveTo row col => exact hop.elim
    | _ => cases place <;> exact hrest

lemma printedFrom_append_quiet (hmids : ∀ op ∈ mids, op.Quiet) :
    printedFrom place (ops ++ mids) = printedFrom place ops := by
  induction ops generalizing place with
  | nil =>
    have hquiet : printedFrom place (mids ++ []) = printedFrom place [] :=
      printedFrom_quiet_append hmids []
    rw [List.append_nil] at hquiet
    rw [List.nil_append, hquiet]
  | cons op ops ih =>
    cases op with
    | print symbol =>
      cases place with
      | none => exact ih
      | some place => exact congrArg (place :: ·) ih
    | moveTo row' col' => cases place <;> exact ih
    | _ => cases place <;> exact ih

/-- A cell is printed at its place. -/
lemma printed_append_cell (hmids : ∀ op ∈ mids, op.Quiet) (symbol : String) :
    printed (ops ++ .moveTo row col :: (mids ++ [.print symbol])) = printed ops ++ [(row, col)] := by
  rw [printed, printedFrom_append_moveTo, printedFrom_quiet_append hmids]
  rfl

lemma quiet_writeHyperlinkIfChanged (active requested : Option String) :
    ∀ op ∈ (writeHyperlinkIfChanged active requested).1, op.Quiet := by
  have hlinks : ∀ (b : Bool) (uri : Option String), ∀ op ∈
      ((if b then [TermOp.hyperlink none] else []) ++ uri.elim [] fun uri => [.hyperlink (some uri)]),
      op.Quiet := by
    intro b uri op hop
    cases b <;> cases uri <;> simp at hop
    · subst hop
      trivial
    · subst hop
      trivial
    · rcases hop with rfl | rfl <;> trivial
  intro op hop
  unfold writeHyperlinkIfChanged at hop
  dsimp only at hop
  split at hop
  · cases hop
  · apply hlinks active.isSome (requested.bind sanitizedHyperlinkUri) op
    cases hr : requested.bind sanitizedHyperlinkUri <;> simpa [hr] using hop

lemma quiet_closeHyperlink (active : Option String) :
    ∀ op ∈ closeHyperlink active, op.Quiet := by
  intro op hop
  unfold closeHyperlink at hop
  split_ifs at hop
  · rw [List.mem_singleton] at hop
    subst hop
    trivial
  · cases hop

end

/-! ### The two loops -/

section
variable (width : String → Nat)

/-- The width of the symbol in each column of a row. -/
def FrameData.widths (frame : FrameData) (row col : Nat) : Nat :=
  ((frame.cell row col).map fun cell => width cell.symbol).getD 0

/-- The cell of the new frame looks different from the one it replaces. -/
def Changed (frame prev : FrameData) (row col : Nat) : Prop :=
  ∃ cell prevCell, frame.cell row col = some cell ∧ prev.cell row col = some prevCell ∧
    cellsVisuallyEqual (sanitizedFrameHyperlinks frame) cell (sanitizedFrameHyperlinks prev)
      prevCell = false

variable {width} {frame prev : FrameData} {row col : Nat}

lemma FrameData.exists_cell (hrow : row < frame.height) (hcol : col < frame.width) :
    ∃ cell ∈ frame.cells, frame.cell row col = some cell := by
  have hlt : row * frame.width + col < frame.cells.length := by
    rw [frame.cells_length]
    have hle : (row + 1) * frame.width ≤ frame.height * frame.width :=
      Nat.mul_le_mul_right _ hrow
    rw [Nat.mul_comm frame.width frame.height]
    rw [Nat.succ_mul] at hle
    omega
  exact ⟨frame.cells[row * frame.width + col], List.getElem_mem hlt, List.getElem?_eq_getElem hlt⟩

lemma FrameData.widths_eq {cell : CellData} (hcell : frame.cell row col = some cell) :
    frame.widths width row col = width cell.symbol := by
  rw [FrameData.widths, hcell]
  rfl

/-- Before column `c` of the full writer's loop over a row. -/
structure PaintedTo (width : String → Nat) (frame : FrameData) (row : Nat)
    (before : List (Nat × Nat)) (c : Nat) (p : FullPaint) : Prop where
  next_start : StartsGlyph (frame.widths width row) (c + p.toSkip)
  none_between : ∀ k, c ≤ k → k < c + p.toSkip → ¬ StartsGlyph (frame.widths width row) k
  places : ∀ place, place ∈ printed p.ops ↔ place ∈ before ∨
    ∃ col < c, place = (row, col) ∧ StartsGlyph (frame.widths width row) col

lemma PaintedTo.step {before : List (Nat × Nat)} {c : Nat} {p : FullPaint}
    (h : PaintedTo width frame row before c p) {cell : CellData}
    (hcell : frame.cell row c = some cell) (hskip : cell.skip = false) :
    PaintedTo width frame row before (c + 1) (paintCell width frame row p c) := by
  have hwidth : frame.widths width row c = width cell.symbol := FrameData.widths_eq hcell
  unfold paintCell
  by_cases hcovered : p.toSkip > 0
  · rw [if_pos hcovered]
    have hnot := h.none_between c le_rfl (by omega)
    refine ⟨?_, fun k hk hk' => h.none_between k (by omega) ?_, fun place => ?_⟩
    · have heq : c + 1 + (p.toSkip - 1) = c + p.toSkip := by omega
      simp only [heq, h.next_start]
    · dsimp only at hk'
      omega
    · rw [h.places]
      refine or_congr_right ⟨fun ⟨col, hlt, hplace⟩ => ⟨col, by omega, hplace⟩, ?_⟩
      rintro ⟨col, hlt, hplace, hstart⟩
      refine ⟨col, ?_, hplace, hstart⟩
      rcases Nat.lt_succ_iff_lt_or_eq.mp hlt with hlt | rfl
      · exact hlt
      · exact absurd hstart hnot
  · have hzero : p.toSkip = 0 := by omega
    have hstart := h.next_start
    rw [hzero, Nat.add_zero] at hstart
    rw [if_neg hcovered, hcell]
    simp only [hskip, Bool.false_eq_true, if_false]
    refine ⟨?_, fun k hk hk' => hstart.not_inside (by omega) ?_, fun place => ?_⟩
    · have hnext := hstart.next
      rw [hwidth] at hnext
      have heq : c + 1 + (width cell.symbol - 1) = c + max 1 (width cell.symbol) := by omega
      simpa only [heq] using hnext
    · dsimp only at hk'
      rw [hwidth]
      omega
    · have hquiet : ∀ op ∈ [TermOp.sgr (buildSgr cell.fg cell.bg cell.modifier)] ++
          (writeHyperlinkIfChanged p.activeHyperlink (cellHyperlinkUri frame cell)).1,
          op.Quiet := by
        intro op hop
        rcases List.mem_append.mp hop with hop | hop
        · rw [List.mem_singleton] at hop
          subst hop
          trivial
        · exact quiet_writeHyperlinkIfChanged _ _ op hop
      have hprinted : printed (p.ops ++ .moveTo row c :: (_ ++ [.print cell.symbol])) =
          printed p.ops ++ [(row, c)] := printed_append_cell hquiet cell.symbol
      simp only [List.append_assoc, List.cons_append, List.nil_append] at hprinted ⊢
      rw [hprinted, List.mem_append, h.places, List.mem_singleton]
      constructor
      · rintro ((hbefore | ⟨col, hlt, hplace⟩) | rfl)
        · exact .inl hbefore
        · exact .inr ⟨col, by omega, hplace⟩
        · exact .inr ⟨c, by omega, rfl, hstart⟩
      · rintro (hbefore | ⟨col, hlt, rfl, hcol⟩)
        · exact .inl (.inl hbefore)
        · rcases Nat.lt_succ_iff_lt_or_eq.mp hlt with hlt | rfl
          · exact .inl (.inr ⟨col, hlt, rfl, hcol⟩)
          · exact .inr rfl

lemma printed_paintRow (hrow : row < frame.height)
    (hskip : ∀ cell ∈ frame.cells, cell.skip = false) (p : FullPaint) (place : Nat × Nat) :
    place ∈ printed (paintRow width frame p row).ops ↔ place ∈ printed p.ops ∨
      ∃ col < frame.width, place = (row, col) ∧ StartsGlyph (frame.widths width row) col := by
  have hloop : PaintedTo width frame row (printed p.ops) frame.width
      (paintRow width frame p row) := by
    apply foldl_range_invariant (PaintedTo width frame row (printed p.ops))
    · refine ⟨.zero, fun k hk hk' => absurd hk' (Nat.not_lt_zero k), fun place => ?_⟩
      simp
    · intro c hc q hq
      obtain ⟨cell, hmem, hcell⟩ := FrameData.exists_cell hrow hc
      exact hq.step hcell (hskip cell hmem)
  exact hloop.places place

/-- The full writer prints where a glyph starts. -/
lemma mem_printed_writeAllCells (hskip : ∀ cell ∈ frame.cells, cell.skip = false) :
    (row, col) ∈ printed (writeAllCells width frame) ↔
      row < frame.height ∧ col < frame.width ∧ StartsGlyph (frame.widths width row) col := by
  have hloop := @foldl_range_invariant _ (paintRow width frame) ⟨[], none, 0⟩ frame.height
    (fun n p => ∀ place, place ∈ printed p.ops ↔ ∃ row < n, ∃ col < frame.width,
      place = (row, col) ∧ StartsGlyph (frame.widths width row) col)
    (fun place => by simp [printed, printedFrom])
    (fun n hn p hp place => by
      rw [printed_paintRow hn hskip, hp]
      simp only [Nat.lt_succ_iff_lt_or_eq, or_and_right, exists_or, exists_eq_left])
  have hquiet : ∀ op ∈ closeHyperlink ((List.range frame.height).foldl (paintRow width frame)
      ⟨[], none, 0⟩).activeHyperlink ++ [TermOp.sgr "0"], op.Quiet := by
    intro op hop
    rcases List.mem_append.mp hop with hop | hop
    · exact quiet_closeHyperlink _ op hop
    · rw [List.mem_singleton] at hop
      subst hop
      trivial
  unfold writeAllCells printed
  rw [List.append_assoc, printedFrom_append_quiet hquiet]
  rw [printed] at hloop
  rw [hloop]
  constructor
  · rintro ⟨row', hrow, col', hcol, heq, hstart⟩
    cases heq
    exact ⟨hrow, hcol, hstart⟩
  · rintro ⟨hrow, hcol, hstart⟩
    exact ⟨row, hrow, col, hcol, rfl, hstart⟩

/-! ### The writer of changes -/

/-- A symbol of the new or the previous frame further left reaches over the column. -/
def Reached (width : String → Nat) (frame prev : FrameData) (row col : Nat) : Prop :=
  ∃ c < col, col < c + max (frame.widths width row c) (prev.widths width row c)

/-- Where the writer of changes prints. -/
def DiffPrints (width : String → Nat) (frame prev : FrameData) (row col : Nat) : Prop :=
  (Changed frame prev row col ∨ Reached width frame prev row col) ∧
    (0 < col → frame.widths width row (col - 1) ≤ 1)

/-- Before column `c` of the loop of the writer of changes over a row. -/
structure DiffedTo (width : String → Nat) (frame prev : FrameData) (row : Nat)
    (before : List (Nat × Nat)) (c : Nat) (p : DiffPaint) : Prop where
  skips : p.toSkip = 0 ↔ (0 < c → frame.widths width row (c - 1) ≤ 1)
  reaches : ∀ m, m < p.invalidated ↔
    ∃ k < c, c + m < k + max (frame.widths width row k) (prev.widths width row k)
  places : ∀ place, place ∈ printed p.ops ↔ place ∈ before ∨
    ∃ col < c, place = (row, col) ∧ DiffPrints width frame prev row col

lemma printed_writeCell {cell : CellData} (hskip : cell.skip = false) (p : DiffPaint) :
    printed (writeCell frame row col cell p).ops = printed p.ops ++ [(row, col)] := by
  unfold writeCell
  simp only [hskip, Bool.false_eq_true, if_false]
  have hquiet : ∀ op ∈ (if buildSgr cell.fg cell.bg cell.modifier ≠ p.lastSgr then
        [TermOp.sgr (buildSgr cell.fg cell.bg cell.modifier)] else []) ++
      (writeHyperlinkIfChanged p.activeHyperlink (cellHyperlinkUri frame cell)).1, op.Quiet := by
    intro op hop
    rcases List.mem_append.mp hop with hop | hop
    · split_ifs at hop
      · rw [List.mem_singleton] at hop
        subst hop
        trivial
      · cases hop
    · exact quiet_writeHyperlinkIfChanged _ _ op hop
  have hprinted : printed (p.ops ++ .moveTo row col :: (_ ++ [.print cell.symbol])) =
      printed p.ops ++ [(row, col)] := printed_append_cell hquiet cell.symbol
  simpa only [List.append_assoc, List.cons_append, List.nil_append] using hprinted

lemma writeCell_invalidated (cell : CellData) (p : DiffPaint) :
    (writeCell frame row col cell p).invalidated = p.invalidated := by
  unfold writeCell
  split_ifs <;> rfl

lemma DiffedTo.step {before : List (Nat × Nat)} {c : Nat} {p : DiffPaint}
    (h : DiffedTo width frame prev row before c p) {cell prevCell : CellData}
    (hcell : frame.cell row c = some cell) (hprev : prev.cell row c = some prevCell)
    (hskip : cell.skip = false) :
    DiffedTo width frame prev row before (c + 1) (diffCell width frame prev row p c) := by
  have hwidth : frame.widths width row c = width cell.symbol := FrameData.widths_eq hcell
  have hwidth' : prev.widths width row c = width prevCell.symbol := FrameData.widths_eq hprev
  have hprints : DiffPrints width frame prev row c ↔
      (cellsVisuallyEqual (sanitizedFrameHyperlinks frame) cell (sanitizedFrameHyperlinks prev)
        prevCell = false ∨ 0 < p.invalidated) ∧ p.toSkip = 0 := by
    have hchanged : Changed frame prev row c ↔ cellsVisuallyEqual (sanitizedFrameHyperlinks frame)
        cell (sanitizedFrameHyperlinks prev) prevCell = false := by
      unfold Changed
      rw [hcell, hprev]
      simp
    have hreached : Reached width frame prev row c ↔ 0 < p.invalidated := (h.reaches 0).symm
    rw [DiffPrints, hchanged, hreached, h.skips]
  unfold diffCell
  rw [hcell, hprev]
  dsimp only
  refine ⟨?_, fun m => ?_, fun place => ?_⟩
  · simp only [Nat.zero_lt_succ, forall_const, Nat.add_sub_cancel, hwidth]
    omega
  · have hkept : ∀ b : Bool, (if b then writeCell frame row c cell p else p).invalidated =
        p.invalidated := by
      intro b
      cases b
      · rfl
      · exact writeCell_invalidated cell p
    rw [hkept]
    dsimp only
    have hlater := h.reaches (m + 1)
    constructor
    · intro hm
      by_cases hhere : m + 1 < max (width cell.symbol) (width prevCell.symbol)
      · refine ⟨c, Nat.lt_succ_self c, ?_⟩
        rw [hwidth, hwidth']
        omega
      · obtain ⟨k, hk, hreach⟩ := hlater.mp (by omega)
        exact ⟨k, by omega, by omega⟩
    · rintro ⟨k, hk, hreach⟩
      rcases Nat.lt_succ_iff_lt_or_eq.mp hk with hk | rfl
      · have hm := hlater.mpr ⟨k, hk, by omega⟩
        omega
      · rw [hwidth, hwidth'] at hreach
        omega
  · have hbefore : (∃ col < c + 1, place = (row, col) ∧ DiffPrints width frame prev row col) ↔
        (∃ col < c, place = (row, col) ∧ DiffPrints width frame prev row col) ∨
          place = (row, c) ∧ DiffPrints width frame prev row c := by
      simp only [Nat.lt_succ_iff_lt_or_eq, or_and_right, exists_or, exists_eq_left]
    rw [hbefore, ← or_assoc, ← h.places, hprints]
    split_ifs with hwrites
    · rw [printed_writeCell hskip, List.mem_append, List.mem_singleton]
      simp only [hskip, Bool.not_false, Bool.true_and, Bool.and_eq_true, Bool.or_eq_true,
        Bool.not_eq_true', decide_eq_true_eq] at hwrites
      rw [and_iff_left hwrites]
    · simp only [hskip, Bool.not_false, Bool.true_and, Bool.and_eq_true, Bool.or_eq_true,
        Bool.not_eq_true', decide_eq_true_eq] at hwrites
      simp only [hwrites, and_false, or_false]

lemma printed_diffRow (hrow : row < frame.height) (hheight : prev.height = frame.height)
    (hwidth : prev.width = frame.width) (hskip : ∀ cell ∈ frame.cells, cell.skip = false)
    (p : DiffPaint) (place : Nat × Nat) :
    place ∈ printed (diffRow width frame prev p row).ops ↔ place ∈ printed p.ops ∨
      ∃ col < frame.width, place = (row, col) ∧ DiffPrints width frame prev row col := by
  have hloop : DiffedTo width frame prev row (printed p.ops) frame.width
      (diffRow width frame prev p row) := by
    apply foldl_range_invariant (DiffedTo width frame prev row (printed p.ops))
    · refine ⟨by simp, fun m => ?_, fun place => by simp⟩
      simp
    · intro c hc q hq
      obtain ⟨cell, hmem, hcell⟩ := FrameData.exists_cell hrow hc
      have hrow' : row < prev.height := hheight ▸ hrow
      have hc' : c < prev.width := hwidth ▸ hc
      obtain ⟨prevCell, -, hprev⟩ := FrameData.exists_cell hrow' hc'
      exact hq.step hcell hprev (hskip cell hmem)
  exact hloop.places place

lemma mem_printed_writeChangedCells (hheight : prev.height = frame.height)
    (hwidth : prev.width = frame.width) (hskip : ∀ cell ∈ frame.cells, cell.skip = false) :
    (row, col) ∈ printed (writeChangedCells width frame prev) ↔
      row < frame.height ∧ col < frame.width ∧ DiffPrints width frame prev row col := by
  have hloop := @foldl_range_invariant _ (diffRow width frame prev) ⟨[], "", none, 0, 0⟩ frame.height
    (fun n p => ∀ place, place ∈ printed p.ops ↔ ∃ row < n, ∃ col < frame.width,
      place = (row, col) ∧ DiffPrints width frame prev row col)
    (fun place => by simp [printed, printedFrom])
    (fun n hn p hp place => by
      rw [printed_diffRow hn hheight hwidth hskip, hp]
      simp only [Nat.lt_succ_iff_lt_or_eq, or_and_right, exists_or, exists_eq_left])
  unfold writeChangedCells
  generalize (List.range frame.height).foldl (diffRow width frame prev) ⟨[], "", none, 0, 0⟩ = p
    at hloop ⊢
  have hquiet : ∀ op ∈ closeHyperlink p.activeHyperlink ++
      (if p.lastSgr.isEmpty then [] else [TermOp.sgr "0"]), op.Quiet := by
    intro op hop
    rcases List.mem_append.mp hop with hop | hop
    · exact quiet_closeHyperlink _ op hop
    · split_ifs at hop
      · cases hop
      · rw [List.mem_singleton] at hop
        subst hop
        trivial
  dsimp only
  rw [printed, List.append_assoc, printedFrom_append_quiet hquiet, ← printed, hloop]
  constructor
  · rintro ⟨row', hrow, col', hcol, heq, hprints⟩
    cases heq
    exact ⟨hrow, hcol, hprints⟩
  · rintro ⟨hrow, hcol, hprints⟩
    exact ⟨row, hrow, col, hcol, rfl, hprints⟩

/-! ### Where the two agree -/

/-- The writer of changes prints only what the full writer prints, and all of it that looks
different. -/
def PrintsChanges (width : String → Nat) (frame prev : FrameData) : Prop :=
  ∀ row col, ((row, col) ∈ printed (writeChangedCells width frame prev) →
      (row, col) ∈ printed (writeAllCells width frame)) ∧
    ((row, col) ∈ printed (writeAllCells width frame) → Changed frame prev row col →
      (row, col) ∈ printed (writeChangedCells width frame prev))

/-- A symbol wider than two columns covers wide cells, but for the last one; where the last covered
cell is wide, the cell behind it has not changed. -/
structure CoveredCellsFit (width : String → Nat) (frame prev : FrameData) : Prop where
  inside : ∀ row < frame.height, ∀ col, col + 1 < frame.width →
    ¬ StartsGlyph (frame.widths width row) (col + 1) → 2 ≤ frame.widths width row col
  behind : ∀ row < frame.height, ∀ col, col + 1 < frame.width →
    StartsGlyph (frame.widths width row) (col + 1) → 2 ≤ frame.widths width row col →
      ¬ Changed frame prev row (col + 1)

/-- The two writers agree exactly when the covered cells fit the symbols that cover them. -/
theorem printsChanges_iff (hheight : prev.height = frame.height) (hwidth : prev.width = frame.width)
    (hskip : ∀ cell ∈ frame.cells, cell.skip = false) :
    PrintsChanges width frame prev ↔ CoveredCellsFit width frame prev := by
  unfold PrintsChanges
  simp only [mem_printed_writeAllCells hskip, mem_printed_writeChangedCells hheight hwidth hskip]
  constructor
  · intro h
    refine ⟨fun row hrow col hcol hcovered => ?_, fun row hrow col hcol hstart hwide hchanged => ?_⟩
    · by_contra hnarrow
      obtain ⟨c, hlt, -, hreach⟩ := exists_covering hcovered
      have hreached : Reached width frame prev row (col + 1) := ⟨c, hlt, by omega⟩
      have hprints : DiffPrints width frame prev row (col + 1) :=
        ⟨.inr hreached, fun _ => by rw [Nat.add_sub_cancel]; omega⟩
      exact hcovered ((h row (col + 1)).1 ⟨hrow, hcol, hprints⟩).2.2
    · have hprints := ((h row (col + 1)).2 ⟨hrow, hcol, hstart⟩ hchanged).2.2.2
      rw [Nat.add_sub_cancel] at hprints
      have hnarrow := hprints (Nat.succ_pos col)
      omega
  · intro h row col
    refine ⟨fun ⟨hrow, hcol, hprints⟩ => ⟨hrow, hcol, ?_⟩, fun ⟨hrow, hcol, hstart⟩ hchanged =>
      ⟨hrow, hcol, .inl hchanged, fun hpos => ?_⟩⟩
    · cases col with
      | zero => exact .zero
      | succ col =>
        by_contra hcovered
        have hwide := h.inside row hrow col hcol hcovered
        have hnarrow := hprints.2 (Nat.succ_pos col)
        rw [Nat.add_sub_cancel] at hnarrow
        omega
    · cases col with
      | zero => omega
      | succ col =>
        rw [Nat.add_sub_cancel]
        by_contra hwide
        exact h.behind row hrow col hcol hstart (by omega) hchanged

end

/-- One row with a wide symbol over another wide symbol, and a third cell behind them. -/
def overlappedRow (behind : String) : FrameData where
  cells := ["世", "界", behind].map fun symbol => ⟨symbol, 0, 0, 0, false, none⟩
  width := 3
  height := 1
  cursor := none
  hyperlinks := []
  graphics := []
  cells_length := rfl

def overlappedWidth (symbol : String) : Nat :=
  if symbol = "世" ∨ symbol = "界" then 2 else 1

/-- The third cell changes and is not printed. -/
theorem not_printsChanges_overlapped :
    ¬ PrintsChanges overlappedWidth (overlappedRow "b") (overlappedRow "a") := by
  intro h
  have hchanged : Changed (overlappedRow "b") (overlappedRow "a") 0 2 :=
    ⟨_, _, rfl, rfl, by decide⟩
  have hfull : (0, 2) ∈ printed (writeAllCells overlappedWidth (overlappedRow "b")) := by
    decide +kernel
  have hdiff : (0, 2) ∉ printed (writeChangedCells overlappedWidth (overlappedRow "b")
      (overlappedRow "a")) := by
    decide +kernel
  exact hdiff ((h 0 2).2 hfull hchanged)

/-- A row of these symbols. -/
def symbolRow (symbols : List String) : FrameData where
  cells := symbols.map fun symbol => ⟨symbol, 0, 0, 0, false, none⟩
  width := symbols.length
  height := 1
  cursor := none
  hyperlinks := []
  graphics := []
  cells_length := by rw [List.length_map, Nat.mul_one]

/-- The cell that the wide symbol covers is blank, and the one behind it is printed. -/
theorem printsChanges_iff_wide :
    PrintsChanges overlappedWidth (symbolRow ["世", " ", "b"]) (symbolRow ["a", "b", "a"]) := by
  have hskip : ∀ cell ∈ (symbolRow ["世", " ", "b"]).cells, cell.skip = false := by decide
  have hwide : (symbolRow ["世", " ", "b"]).widths overlappedWidth 0 0 = 2 := by decide
  have hblank : (symbolRow ["世", " ", "b"]).widths overlappedWidth 0 1 = 1 := by decide
  have hbehind : StartsGlyph ((symbolRow ["世", " ", "b"]).widths overlappedWidth 0) 2 := by
    have hfirst : StartsGlyph ((symbolRow ["世", " ", "b"]).widths overlappedWidth 0) 0 := .zero
    have hnext := hfirst.next
    rwa [hwide] at hnext
  have hcovered : ¬ StartsGlyph ((symbolRow ["世", " ", "b"]).widths overlappedWidth 0) 1 :=
    StartsGlyph.zero.not_inside Nat.zero_lt_one (by rw [hwide]; decide)
  have hheight : (symbolRow ["a", "b", "a"]).height = (symbolRow ["世", " ", "b"]).height := rfl
  have hwidth : (symbolRow ["a", "b", "a"]).width = (symbolRow ["世", " ", "b"]).width := rfl
  apply (printsChanges_iff hheight hwidth hskip).mpr
  refine ⟨fun row hrow col hcol hinside => ?_, fun row hrow col hcol hstart htwo => ?_⟩
  all_goals
    obtain rfl : row = 0 := Nat.lt_one_iff.mp hrow
    obtain rfl | rfl : col = 0 ∨ col = 1 := by
      have hlt : col + 1 < 3 := hcol
      omega
  · exact hwide.ge
  · exact absurd hbehind hinside
  · exact absurd hstart hcovered
  · rw [hblank] at htwo
    omega

end Ork3.Render
