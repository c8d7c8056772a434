import Ork3.Library.Repaint
import Ork3.Proofs.ChangedCells
import Ork3.Proofs.HostCursor

/-!
# Repainting a screen

The writer of changes leaves behind what the full writer would, although it prints only where a cell
has changed or a wide glyph of the frame before was in the way.
-/

namespace Ork3.Render

open Ork3.Library

/-! ### What is shown of a frame -/

section
variable (width : String → Nat)

def FrameData.glyphOf (frame : FrameData) (cell : CellData) : Glyph where
  symbol := cell.symbol
  style := buildSgr cell.fg cell.bg cell.modifier
  hyperlink := (cellHyperlinkUri frame cell).bind sanitizedHyperlinkUri

/-- The glyph of a cell; outside of the frame it does not matter. -/
def FrameData.glyph (frame : FrameData) (row col : Nat) : Glyph :=
  ((frame.cell row col).map frame.glyphOf).getD ⟨"", "", none⟩

def FrameData.wide (frame : FrameData) (row col : Nat) : Bool :=
  frame.widths width row col = 2

/-- A row of the screen that shows the frame. -/
def FrameData.shown (frame : FrameData) (row : Nat) : Nat → GridCell Glyph :=
  arranged (frame.wide width row) (frame.glyph row)

/-- No cell is skipped, symbols take one or two columns, and there is room for each behind its
cell. -/
structure FrameData.Drawable (frame : FrameData) : Prop where
  skip : ∀ cell ∈ frame.cells, cell.skip = false
  narrow_or_wide : ∀ cell ∈ frame.cells, width cell.symbol = 1 ∨ width cell.symbol = 2
  room : ∀ row < frame.height, ∀ col < frame.width, frame.widths width row col = 2 →
    col + 1 < frame.width ∧ frame.widths width row (col + 1) = 1

end

section
variable {width : String → Nat} {frame : FrameData} {row col : Nat} {cell : CellData}

lemma FrameData.glyph_eq (hcell : frame.cell row col = some cell) :
    frame.glyph row col = frame.glyphOf cell := by
  rw [FrameData.glyph, hcell]
  rfl

lemma FrameData.wide_eq (hcell : frame.cell row col = some cell) :
    frame.wide width row col = decide (width cell.symbol = 2) := by
  rw [FrameData.wide, FrameData.widths_eq hcell]

lemma FrameData.Drawable.wide_next (h : frame.Drawable width) (hrow : row < frame.height)
    (hcol : col < frame.width) (hwide : frame.wide width row col = true) :
    col + 1 < frame.width ∧ frame.wide width row (col + 1) = false := by
  obtain ⟨hlt, hnarrow⟩ := h.room row hrow col hcol (of_decide_eq_true hwide)
  refine ⟨hlt, ?_⟩
  rw [FrameData.wide, hnarrow]
  rfl

/-- A covered column is narrow itself. -/
lemma FrameData.Drawable.narrow_of_covered (h : frame.Drawable width) (hrow : row < frame.height)
    (hcol : col < frame.width) (hcovered : coveredBy (frame.wide width row) col = true) :
    frame.wide width row col = false := by
  cases col with
  | zero => cases hcovered
  | succ col => exact (h.wide_next hrow (by omega) hcovered).2

end

/-! ### Styles and hyperlinks -/

lemma buildSgr_eq (fg bg : UInt32) (modifier : UInt16) :
    ∃ rest, (buildSgr fg bg modifier).toList = '0' :: ';' :: rest := by
  have hne : modifierToSgrParts modifier ++ [colorToSgrFg fg, colorToSgrBg bg] ≠ [] :=
    List.append_ne_nil_of_right_ne_nil _ (List.cons_ne_nil _ _)
  unfold buildSgr
  rw [String.intercalate_cons_of_ne_nil hne, String.toList_append, String.toList_append]
  exact ⟨_, rfl⟩

lemma buildSgr_ne_empty (fg bg : UInt32) (modifier : UInt16) : buildSgr fg bg modifier ≠ "" := by
  obtain ⟨rest, hrest⟩ := buildSgr_eq fg bg modifier
  intro hempty
  rw [hempty] at hrest
  cases hrest

/-- The complete sequence of a cell replaces the style. -/
lemma applySgr_buildSgr (style : String) (fg bg : UInt32) (modifier : UInt16) :
    applySgr style (buildSgr fg bg modifier) = buildSgr fg bg modifier := by
  obtain ⟨rest, hrest⟩ := buildSgr_eq fg bg modifier
  unfold applySgr
  rw [if_pos]
  right
  rw [hrest]
  rfl

section
variable (width : String → Nat) {t : HostTerminal}

/-- The hyperlink is the one that is asked for, and nothing else has changed. -/
lemma run_writeHyperlinkIfChanged {active : Option String} (hactive : t.hyperlink = active)
    (requested : Option String) :
    t.run width (writeHyperlinkIfChanged active requested).1 =
      { t with hyperlink := requested.bind sanitizedHyperlinkUri } ∧
    (writeHyperlinkIfChanged active requested).2 = requested.bind sanitizedHyperlinkUri := by
  unfold writeHyperlinkIfChanged
  dsimp only
  by_cases hsame : active = requested.bind sanitizedHyperlinkUri
  · rw [if_pos hsame]
    refine ⟨?_, hsame⟩
    rw [← hsame, ← hactive]
    rfl
  · rw [if_neg hsame]
    refine ⟨?_, rfl⟩
    cases hrequested : requested.bind sanitizedHyperlinkUri with
    | none =>
      cases active with
      | none => exact absurd hrequested.symm hsame
      | some uri => rfl
    | some uri => cases active <;> rfl

lemma run_closeHyperlink {active : Option String} (hactive : t.hyperlink = active) :
    t.run width (closeHyperlink active) = { t with hyperlink := none } := by
  cases active with
  | none =>
    change t = _
    rw [← hactive]
  | some uri => rfl

/-- The row once a glyph is printed in a column. -/
def putGlyph (col : Nat) (glyph : Glyph) (line : Nat → GridCell Glyph) : Nat → GridCell Glyph :=
  if width glyph.symbol = 2 then printWide col glyph line else printNarrow col glyph line

/-- The terminal once a cell is printed in its place, style and hyperlink. -/
def HostTerminal.showCell (frame : FrameData) (row col : Nat) (cell : CellData) (t : HostTerminal) :
    HostTerminal :=
  { t with
    screen := fun r =>
      if r = row then putGlyph width col (frame.glyphOf cell) (t.screen row) else t.screen r
    cursor := (row, col + width cell.symbol)
    style := buildSgr cell.fg cell.bg cell.modifier
    hyperlink := (cellHyperlinkUri frame cell).bind sanitizedHyperlinkUri }

variable {width}

lemma HostTerminal.screen_showCell {frame : FrameData} {row col : Nat} {cell : CellData} :
    (t.showCell width frame row col cell).screen row =
      putGlyph width col (frame.glyphOf cell) (t.screen row) := if_pos rfl

lemma putGlyph_of_wide {glyph : Glyph} (hwide : decide (width glyph.symbol = 2) = true) (col : Nat)
    (line : Nat → GridCell Glyph) : putGlyph width col glyph line = printWide col glyph line :=
  if_pos (of_decide_eq_true hwide)

lemma putGlyph_of_narrow {glyph : Glyph} (hnarrow : decide (width glyph.symbol = 2) = false)
    (col : Nat) (line : Nat → GridCell Glyph) :
    putGlyph width col glyph line = printNarrow col glyph line :=
  if_neg (of_decide_eq_false hnarrow)

/-- A cell is printed behind its place, whatever dresses it, and its hyperlink. -/
lemma run_cell (frame : FrameData) {row col : Nat} {cell : CellData} {active : Option String}
    (hactive : t.hyperlink = active) {dress : List TermOp}
    (hdress : ({ t with cursor := (row, col) } : HostTerminal).run width dress =
      { t with
        cursor := (row, col)
        style := buildSgr cell.fg cell.bg cell.modifier }) :
    t.run width (.moveTo row col :: (dress ++
        (writeHyperlinkIfChanged active (cellHyperlinkUri frame cell)).1 ++ [.print cell.symbol])) =
      t.showCell width frame row col cell := by
  rw [HostTerminal.run_cons, HostTerminal.run_append, HostTerminal.run_append]
  have hmoved : t.apply width (.moveTo row col) = { t with cursor := (row, col) } := rfl
  have hlinked := (run_writeHyperlinkIfChanged width (t := { t with
    cursor := (row, col)
    style := buildSgr cell.fg cell.bg cell.modifier }) hactive (cellHyperlinkUri frame cell)).1
  rw [hmoved, hdress, hlinked]
  unfold HostTerminal.showCell putGlyph
  rfl

end

/-! ### The full writer -/

section
variable {width : String → Nat} {frame : FrameData} {t : HostTerminal} {row : Nat}

/-- Before column `c` of the full writer's loop over a row. -/
structure PaintingRow (width : String → Nat) (frame : FrameData) (t : HostTerminal)
    (before : HostTerminal) (row c : Nat) (p : FullPaint) : Prop where
  hyperlink : (t.run width p.ops).hyperlink = p.activeHyperlink
  others : ∀ r, r ≠ row → (t.run width p.ops).screen r = before.screen r
  painted : Painted (frame.wide width row) (frame.glyph row) c ((t.run width p.ops).screen row)
  toSkip : p.toSkip = if coveredBy (frame.wide width row) c then 1 else 0

lemma PaintingRow.step {before : HostTerminal} {c : Nat} {p : FullPaint} (h : frame.Drawable width)
    (hrow : row < frame.height) (hc : c < frame.width)
    (hp : PaintingRow width frame t before row c p) :
    PaintingRow width frame t before row (c + 1) (paintCell width frame row p c) := by
  obtain ⟨cell, hmem, hcell⟩ := FrameData.exists_cell hrow hc
  have hglyph := FrameData.glyph_eq hcell
  have hwide : frame.wide width row c = decide (width cell.symbol = 2) := FrameData.wide_eq hcell
  unfold paintCell
  cases hcovered : coveredBy (frame.wide width row) c with
  | true =>
    have hskip := hp.toSkip
    have hnarrow := h.narrow_of_covered hrow hc hcovered
    rw [hcovered, if_pos rfl] at hskip
    rw [if_pos (by omega)]
    refine ⟨hp.hyperlink, hp.others, hp.painted.skip hcovered hnarrow, ?_⟩
    rw [coveredBy_succ, hnarrow, if_neg Bool.false_ne_true, hskip]
  | false =>
    have hskip := hp.toSkip
    rw [hcovered, if_neg Bool.false_ne_true] at hskip
    have hnoskip : ¬ cell.skip = true := by rw [h.skip cell hmem]; exact Bool.false_ne_true
    rw [if_neg (by omega), hcell]
    dsimp only
    rw [if_neg hnoskip]
    have hdress : ({ t.run width p.ops with cursor := (row, c) } : HostTerminal).run width
        [.sgr (buildSgr cell.fg cell.bg cell.modifier)] = { t.run width p.ops with
          cursor := (row, c)
          style := buildSgr cell.fg cell.bg cell.modifier } := by
      have hstyle := applySgr_buildSgr (t.run width p.ops).style cell.fg cell.bg cell.modifier
      unfold HostTerminal.run HostTerminal.apply at hstyle ⊢
      simp only [List.foldl_cons, List.foldl_nil, hstyle]
    have hnew : t.run width (p.ops ++
        [.moveTo row c, .sgr (buildSgr cell.fg cell.bg cell.modifier)] ++
        (writeHyperlinkIfChanged p.activeHyperlink (cellHyperlinkUri frame cell)).1 ++
        [.print cell.symbol]) = (t.run width p.ops).showCell width frame row c cell := by
      have hcells := run_cell frame hp.hyperlink hdress
      rw [List.append_assoc, List.append_assoc, HostTerminal.run_append]
      simp only [List.cons_append, List.nil_append] at hcells ⊢
      exact hcells
    refine ⟨?_, fun r hr => ?_, ?_, ?_⟩
    · change (t.run width _).hyperlink = (writeHyperlinkIfChanged _ _).2
      rw [hnew, (run_writeHyperlinkIfChanged width hp.hyperlink (cellHyperlinkUri frame cell)).2]
      rfl
    · rw [hnew, ← hp.others r hr]
      exact if_neg hr
    · rw [hnew, HostTerminal.screen_showCell, ← hglyph]
      cases hcase : frame.wide width row c with
      | true =>
        rw [hcase] at hwide
        rw [putGlyph_of_wide (by rw [hglyph]; exact hwide.symm)]
        exact hp.painted.ofWide hcovered hcase
      | false =>
        rw [hcase] at hwide
        rw [putGlyph_of_narrow (by rw [hglyph]; exact hwide.symm)]
        exact hp.painted.ofNarrow hcovered hcase
    · change width cell.symbol - 1 = _
      rw [coveredBy_succ, hwide]
      rcases h.narrow_or_wide cell hmem with hone | htwo
      · rw [hone]
        rfl
      · rw [htwo]
        rfl

/-! ### The writer of changes -/

variable {prev : FrameData}

/-- The terminal is in the style and the hyperlink the writer of changes takes it to be in. -/
structure Remembered (width : String → Nat) (t : HostTerminal) (p : DiffPaint) : Prop where
  hyperlink : (t.run width p.ops).hyperlink = p.activeHyperlink
  style : p.lastSgr ≠ "" → (t.run width p.ops).style = p.lastSgr

/-- The columns before `c` of a row are repainted, and the other rows are as they were. -/
structure DiffedRow (width : String → Nat) (frame prev : FrameData) (t : HostTerminal)
    (before : HostTerminal) (row c : Nat) (p : DiffPaint) : Prop extends Remembered width t p where
  others : ∀ r, r ≠ row → (t.run width p.ops).screen r = before.screen r
  repainted : Repainted (frame.wide width row) (prev.wide width row) (frame.glyph row)
    (prev.glyph row) frame.width c ((t.run width p.ops).screen row)

/-- Before column `c` of the loop over a row of the writer of changes. -/
structure DiffingRow (width : String → Nat) (frame prev : FrameData) (t : HostTerminal)
    (before : HostTerminal) (row c : Nat) (p : DiffPaint) : Prop extends
    DiffedRow width frame prev t before row c p where
  toSkip : p.toSkip = if coveredBy (frame.wide width row) c then 1 else 0
  invalidated : p.invalidated = if coveredBy (frame.wide width row) c ||
    coveredBy (prev.wide width row) c then 1 else 0

lemma sanitizedCellHyperlinkUri_eq (frame : FrameData) (cell : CellData) :
    sanitizedCellHyperlinkUri (sanitizedFrameHyperlinks frame) cell =
      (frame.glyphOf cell).hyperlink := by
  unfold sanitizedCellHyperlinkUri sanitizedFrameHyperlinks FrameData.glyphOf cellHyperlinkUri
  cases cell.hyperlink with
  | none => rfl
  | some index =>
    dsimp only
    rw [Option.bind_some, Option.bind_some, List.getElem?_map]
    cases frame.hyperlinks[index.toNat]? <;> rfl

/-- Cells that look the same have the same glyph. -/
lemma glyphOf_eq_of_visuallyEqual {cell prevCell : CellData}
    (h : cellsVisuallyEqual (sanitizedFrameHyperlinks frame) cell (sanitizedFrameHyperlinks prev)
      prevCell = true) : frame.glyphOf cell = prev.glyphOf prevCell := by
  simp only [cellsVisuallyEqual, Bool.and_eq_true, decide_eq_true_eq,
    sanitizedCellHyperlinkUri_eq] at h
  obtain ⟨⟨⟨⟨hsymbol, hfg⟩, hbg⟩, hmodifier⟩, hlink⟩ := h
  have hlink : (cellHyperlinkUri frame cell).bind sanitizedHyperlinkUri =
    (cellHyperlinkUri prev prevCell).bind sanitizedHyperlinkUri := hlink
  unfold FrameData.glyphOf
  rw [hsymbol, hfg, hbg, hmodifier, hlink]

/-- A changed cell is written: its glyph stands in its place, and the style is remembered. -/
lemma run_writeCell (row c : Nat) {cell : CellData} {p : DiffPaint} (hskip : cell.skip = false)
    (hp : Remembered width t p) :
    t.run width (writeCell frame row c cell p).ops =
      (t.run width p.ops).showCell width frame row c cell ∧
    (writeCell frame row c cell p).activeHyperlink = (frame.glyphOf cell).hyperlink ∧
    (writeCell frame row c cell p).lastSgr = buildSgr cell.fg cell.bg cell.modifier := by
  have hnoskip : ¬ cell.skip = true := by
    rw [hskip]
    exact Bool.false_ne_true
  have hdress : ({ t.run width p.ops with cursor := (row, c) } : HostTerminal).run width
      (if buildSgr cell.fg cell.bg cell.modifier ≠ p.lastSgr then
        [.sgr (buildSgr cell.fg cell.bg cell.modifier)] else []) = { t.run width p.ops with
          cursor := (row, c)
          style := buildSgr cell.fg cell.bg cell.modifier } := by
    by_cases hsame : buildSgr cell.fg cell.bg cell.modifier ≠ p.lastSgr
    · have hreplaced := applySgr_buildSgr (t.run width p.ops).style cell.fg cell.bg cell.modifier
      rw [if_pos hsame]
      unfold HostTerminal.run HostTerminal.apply at hreplaced ⊢
      simp only [List.foldl_cons, List.foldl_nil, hreplaced]
    · have hlast := not_not.mp hsame
      have hold := hp.style (hlast ▸ buildSgr_ne_empty cell.fg cell.bg cell.modifier)
      rw [if_neg hsame, hlast, ← hold]
      rfl
  unfold writeCell
  rw [if_neg hnoskip]
  refine ⟨?_, (run_writeHyperlinkIfChanged width hp.hyperlink (cellHyperlinkUri frame cell)).2, rfl⟩
  change t.run width (p.ops ++ [.moveTo row c] ++ (if buildSgr cell.fg cell.bg cell.modifier ≠
    p.lastSgr then [.sgr (buildSgr cell.fg cell.bg cell.modifier)] else []) ++
    (writeHyperlinkIfChanged p.activeHyperlink (cellHyperlinkUri frame cell)).1 ++
    [.print cell.symbol]) = _
  have hcells := run_cell frame hp.hyperlink hdress
  rw [List.append_assoc p.ops, List.append_assoc p.ops, List.append_assoc p.ops,
    HostTerminal.run_append]
  simp only [List.append_assoc, List.cons_append, List.nil_append] at hcells ⊢
  exact hcells

/-- What the counters of the writer are behind a column. -/
lemma DiffingRow.counters {c : Nat} {cell prevCell : CellData} {invalidated : Nat}
    (hone : width cell.symbol = 1 ∨ width cell.symbol = 2)
    (hone' : width prevCell.symbol = 1 ∨ width prevCell.symbol = 2) (hle : invalidated ≤ 1)
    (hwide : frame.wide width row c = decide (width cell.symbol = 2))
    (hwide' : prev.wide width row c = decide (width prevCell.symbol = 2)) :
    (width cell.symbol - 1 = if coveredBy (frame.wide width row) (c + 1) then 1 else 0) ∧
    max (max (width cell.symbol) (width prevCell.symbol)) invalidated - 1 =
      if coveredBy (frame.wide width row) (c + 1) || coveredBy (prev.wide width row) (c + 1) then 1
      else 0 := by
  rw [coveredBy_succ, coveredBy_succ, hwide, hwide']
  rcases hone with hone | hone <;> rcases hone' with hone' | hone' <;> rw [hone, hone'] <;> simp
  all_goals omega

/-- A cell that is written where no glyph of the frame covers it. -/
lemma DiffedRow.write {before : HostTerminal} {c : Nat} {p : DiffPaint} (h : frame.Drawable width)
    (hrow : row < frame.height) (hc : c < frame.width) {cell : CellData}
    (hmem : cell ∈ frame.cells) (hcell : frame.cell row c = some cell)
    (hcovered : coveredBy (frame.wide width row) c = false)
    (hp : DiffedRow width frame prev t before row c p) :
    DiffedRow width frame prev t before row (c + 1) (writeCell frame row c cell p) := by
  have hglyph := FrameData.glyph_eq hcell
  have hwide : frame.wide width row c = decide (width cell.symbol = 2) := FrameData.wide_eq hcell
  obtain ⟨hnew, hlink, hsgr⟩ := run_writeCell row c (h.skip cell hmem) hp.toRemembered
  refine ⟨⟨?_, fun _ => ?_⟩, fun r hr => ?_, ?_⟩
  · rw [hnew, hlink]
    rfl
  · rw [hnew, hsgr]
    rfl
  · rw [hnew, ← hp.others r hr]
    exact if_neg hr
  · rw [hnew, HostTerminal.screen_showCell, ← hglyph]
    cases hcase : frame.wide width row c with
    | true =>
      rw [hcase] at hwide
      rw [putGlyph_of_wide (by rw [hglyph]; exact hwide.symm)]
      exact hp.repainted.ofWide (h.wide_next hrow hc hcase).1 hcovered hcase
    | false =>
      rw [hcase] at hwide
      rw [putGlyph_of_narrow (by rw [hglyph]; exact hwide.symm)]
      exact hp.repainted.ofNarrow hcovered hcase

lemma DiffingRow.step {before : HostTerminal} {c : Nat} {p : DiffPaint} (h : frame.Drawable width)
    (h' : prev.Drawable width) (hheight : prev.height = frame.height)
    (hwidth : prev.width = frame.width) (hrow : row < frame.height) (hc : c < frame.width)
    (hp : DiffingRow width frame prev t before row c p) :
    DiffingRow width frame prev t before row (c + 1) (diffCell width frame prev row p c) := by
  obtain ⟨cell, hmem, hcell⟩ := FrameData.exists_cell hrow hc
  have hrow' : row < prev.height := hheight ▸ hrow
  have hc' : c < prev.width := hwidth ▸ hc
  obtain ⟨prevCell, hmem', hprev⟩ := FrameData.exists_cell hrow' hc'
  have hwide : frame.wide width row c = decide (width cell.symbol = 2) := FrameData.wide_eq hcell
  have hwide' : prev.wide width row c = decide (width prevCell.symbol = 2) := FrameData.wide_eq hprev
  have hinvalidated := hp.invalidated
  have htoSkip := hp.toSkip
  have hle : p.invalidated ≤ 1 := by
    rw [hinvalidated]
    split <;> omega
  obtain ⟨hskip, hinvalid⟩ := DiffingRow.counters (h.narrow_or_wide cell hmem)
    (h'.narrow_or_wide prevCell hmem') hle hwide hwide'
  unfold diffCell
  rw [hcell, hprev]
  dsimp only
  cases hcovered : coveredBy (frame.wide width row) c with
  | true =>
    -- the glyph before the cell has been printed over it
    rw [hcovered, if_pos rfl] at htoSkip
    rw [if_neg (by simp [htoSkip])]
    have hskipped := hp.repainted.skip hcovered (h.narrow_of_covered hrow hc hcovered)
    exact ⟨⟨⟨hp.hyperlink, hp.style⟩, hp.others, hskipped⟩, hskip, hinvalid⟩
  | false =>
    rw [hcovered, if_neg Bool.false_ne_true] at htoSkip
    rw [hcovered, Bool.false_or] at hinvalidated
    split_ifs with hwrites
    · have hwritten := hp.toDiffedRow.write h hrow hc hmem hcell hcovered
      refine ⟨⟨⟨hwritten.hyperlink, hwritten.style⟩, hwritten.others, hwritten.repainted⟩,
        hskip, ?_⟩
      rw [writeCell_invalidated]
      exact hinvalid
    · have hkept : cellsVisuallyEqual (sanitizedFrameHyperlinks frame) cell
          (sanitizedFrameHyperlinks prev) prevCell = true ∧ p.invalidated = 0 := by
        simpa [h.skip cell hmem, htoSkip] using hwrites
      have hsame := glyphOf_eq_of_visuallyEqual hkept.1
      have hsymbol : cell.symbol = prevCell.symbol := congrArg Glyph.symbol hsame
      have hcovered' : coveredBy (prev.wide width row) c = false := by
        by_contra htrue
        rw [if_pos (Bool.eq_true_of_not_eq_false htrue)] at hinvalidated
        omega
      have hrepainted := hp.repainted.keep hc (fun hcase => (h.wide_next hrow hc hcase).1) hcovered
        hcovered' (by rw [hwide, hwide', hsymbol])
        (by rw [FrameData.glyph_eq hcell, FrameData.glyph_eq hprev, hsame])
      exact ⟨⟨⟨hp.hyperlink, hp.style⟩, hp.others, hrepainted⟩, hskip, hinvalid⟩

/-! ### Rows -/

/-- The rows before `n` show the frame, and no row shows half a glyph. -/
structure PaintingRows (width : String → Nat) (frame : FrameData) (t : HostTerminal) (n : Nat)
    (p : FullPaint) : Prop where
  hyperlink : (t.run width p.ops).hyperlink = p.activeHyperlink
  paired : ∀ r, Paired ((t.run width p.ops).screen r)
  shown : ∀ r < n, ∀ col < frame.width,
    (t.run width p.ops).screen r col = frame.shown width r col

lemma PaintingRows.step (h : frame.Drawable width) {n : Nat} (hn : n < frame.height) {p : FullPaint}
    (hp : PaintingRows width frame t n p) :
    PaintingRows width frame t (n + 1) (paintRow width frame p n) := by
  have hrow : PaintingRow width frame t (t.run width p.ops) n frame.width
      (paintRow width frame p n) := by
    apply foldl_range_invariant (PaintingRow width frame t (t.run width p.ops) n)
    · exact ⟨hp.hyperlink, fun _ _ => rfl, .start (hp.paired n), rfl⟩
    · intro c hc q hq
      exact hq.step h hn hc
  refine ⟨hrow.hyperlink, fun r => ?_, fun r hr col hcol => ?_⟩
  · by_cases hsame : r = n
    · rw [hsame]
      exact hrow.painted.paired
    · rw [hrow.others r hsame]
      exact hp.paired r
  · rcases Nat.lt_succ_iff_lt_or_eq.mp hr with hlt | rfl
    · rw [hrow.others r (by omega)]
      exact hp.shown r hlt col hcol
    · exact hrow.painted.done col hcol

/-- The rows before `n` show the frame, those from `n` on the frame before. -/
structure DiffingRows (width : String → Nat) (frame prev : FrameData) (t : HostTerminal) (n : Nat)
    (p : DiffPaint) : Prop extends Remembered width t p where
  paired : ∀ r, Paired ((t.run width p.ops).screen r)
  shown : ∀ r < n, ∀ col < frame.width,
    (t.run width p.ops).screen r col = frame.shown width r col
  ahead : ∀ r < frame.height, n ≤ r → ∀ col < frame.width,
    (t.run width p.ops).screen r col = prev.shown width r col

lemma DiffingRows.step (h : frame.Drawable width) (h' : prev.Drawable width)
    (hheight : prev.height = frame.height) (hwidth : prev.width = frame.width) {n : Nat}
    (hn : n < frame.height) {p : DiffPaint} (hp : DiffingRows width frame prev t n p) :
    DiffingRows width frame prev t (n + 1) (diffRow width frame prev p n) := by
  have hrow : DiffingRow width frame prev t (t.run width p.ops) n frame.width
      (diffRow width frame prev p n) := by
    apply foldl_range_invariant (DiffingRow width frame prev t (t.run width p.ops) n)
    · have hstart : Repainted (frame.wide width n) (prev.wide width n) (frame.glyph n)
          (prev.glyph n) frame.width 0 ((t.run width p.ops).screen n) :=
        .start (hp.ahead n hn le_rfl) (hp.paired n)
      exact ⟨⟨⟨hp.hyperlink, hp.style⟩, fun _ _ => rfl, hstart⟩, rfl, rfl⟩
    · intro c hc q hq
      exact hq.step h h' hheight hwidth hn hc
  refine ⟨hrow.toRemembered, fun r => ?_, fun r hr col hcol => ?_, fun r hr hle col hcol => ?_⟩
  · by_cases hsame : r = n
    · rw [hsame]
      exact hrow.repainted.paired
    · rw [hrow.others r hsame]
      exact hp.paired r
  · rcases Nat.lt_succ_iff_lt_or_eq.mp hr with hlt | rfl
    · rw [hrow.others r (by omega)]
      exact hp.shown r hlt col hcol
    · exact hrow.repainted.done col hcol
  · rw [hrow.others r (by omega)]
    exact hp.ahead r hr (by omega) col hcol

/-! ### Whole frames -/

/-- The terminal shows the frame, with no hyperlink open behind it. -/
structure HostTerminal.Displays (width : String → Nat) (t : HostTerminal) (frame : FrameData) :
    Prop where
  hyperlink : t.hyperlink = none
  paired : ∀ r, Paired (t.screen r)
  shown : ∀ r < frame.height, ∀ col < frame.width, t.screen r col = frame.shown width r col

/-- The end of both writers leaves the screen alone. -/
lemma run_end {active : Option String} (hactive : t.hyperlink = active) (reset : Bool) :
    (t.run width (closeHyperlink active ++ if reset then [.sgr "0"] else [])).screen = t.screen ∧
    (t.run width (closeHyperlink active ++ if reset then [.sgr "0"] else [])).hyperlink = none := by
  rw [HostTerminal.run_append, run_closeHyperlink width hactive]
  cases reset <;> exact ⟨rfl, rfl⟩

lemma displays_writeAllCells (h : frame.Drawable width) (hlink : t.hyperlink = none)
    (hpaired : ∀ r, Paired (t.screen r)) :
    (t.run width (writeAllCells width frame)).Displays width frame := by
  have hrows := @foldl_range_invariant _ (paintRow width frame) ⟨[], none, 0⟩ frame.height
    (PaintingRows width frame t) ⟨hlink, hpaired, fun _ hr => absurd hr (Nat.not_lt_zero _)⟩
    fun n hn p hp => hp.step h hn
  unfold writeAllCells
  generalize (List.range frame.height).foldl (paintRow width frame) ⟨[], none, 0⟩ = p at hrows ⊢
  obtain ⟨hscreen, hclosed⟩ := run_end hrows.hyperlink true
  rw [if_pos rfl] at hscreen hclosed
  dsimp only
  rw [List.append_assoc, HostTerminal.run_append]
  refine ⟨hclosed, ?_, ?_⟩
  · rw [hscreen]
    exact hrows.paired
  · rw [hscreen]
    exact hrows.shown

lemma displays_writeChangedCells (h : frame.Drawable width) (h' : prev.Drawable width)
    (hheight : prev.height = frame.height) (hwidth : prev.width = frame.width)
    (ht : t.Displays width prev) :
    (t.run width (writeChangedCells width frame prev)).Displays width frame := by
  have hahead : ∀ r < frame.height, 0 ≤ r → ∀ col < frame.width,
      t.screen r col = prev.shown width r col :=
    fun r hr _ col hcol => ht.shown r (hheight ▸ hr) col (hwidth ▸ hcol)
  have hrows := @foldl_range_invariant _ (diffRow width frame prev) ⟨[], "", none, 0, 0⟩
    frame.height (DiffingRows width frame prev t) ⟨⟨ht.hyperlink, fun hne => absurd rfl hne⟩,
      ht.paired, fun _ hr => absurd hr (Nat.not_lt_zero _), hahead⟩
    fun n hn p hp => hp.step h h' hheight hwidth hn
  unfold writeChangedCells
  generalize (List.range frame.height).foldl (diffRow width frame prev) ⟨[], "", none, 0, 0⟩ = p
    at hrows ⊢
  have hreset : (if p.lastSgr.isEmpty then [] else [TermOp.sgr "0"]) =
      if !p.lastSgr.isEmpty then [.sgr "0"] else [] := by
    cases p.lastSgr.isEmpty <;> rfl
  obtain ⟨hscreen, hclosed⟩ := run_end hrows.hyperlink !p.lastSgr.isEmpty
  dsimp only
  rw [hreset, List.append_assoc, HostTerminal.run_append]
  refine ⟨hclosed, ?_, ?_⟩
  · rw [hscreen]
    exact hrows.paired
  · rw [hscreen]
    exact hrows.shown

/-- Each frame is written against the one before it. -/
def writeLaterFrames (width : String → Nat) (prev : FrameData) : List FrameData → List TermOp
  | [] => []
  | frame :: frames => writeChangedCells width frame prev ++ writeLaterFrames width frame frames

lemma displays_writeLaterFrames {frames : List FrameData} (h' : prev.Drawable width)
    (hframes : ∀ frame ∈ frames, frame.Drawable width ∧ frame.height = prev.height ∧
      frame.width = prev.width) (ht : t.Displays width prev) :
    (t.run width (writeLaterFrames width prev frames)).Displays width (frames.getLastD prev) := by
  induction frames generalizing prev t with
  | nil => exact ht
  | cons frame frames ih =>
    obtain ⟨h, hheight, hwidth⟩ := hframes frame List.mem_cons_self
    have hdisplays := displays_writeChangedCells h h' hheight.symm hwidth.symm ht
    rw [writeLaterFrames, HostTerminal.run_append, List.getLastD_cons]
    apply ih h _ hdisplays
    intro later hlater
    obtain ⟨hdrawable, hheight', hwidth'⟩ := hframes later (List.mem_cons_of_mem _ hlater)
    exact ⟨hdrawable, hheight'.trans hheight.symm, hwidth'.trans hwidth.symm⟩

/-- After any frames of one size, of which only the first was written in full, the screen is the one
that the last frame written in full leaves on a cleared screen. -/
theorem screen_writeLaterFrames {first : FrameData} {frames : List FrameData}
    (hdrawable : ∀ frame ∈ first :: frames, frame.Drawable width)
    (hsize : ∀ frame ∈ frames, frame.height = first.height ∧ frame.width = first.width)
    {t' : HostTerminal} (hlink : t.hyperlink = none) (hlink' : t'.hyperlink = none)
    (hpaired : ∀ r, Paired (t.screen r)) {col : Nat} (hrow : row < first.height)
    (hcol : col < first.width) :
    (t.run width (writeAllCells width first ++ writeLaterFrames width first frames)).screen row col =
      (t'.run width (.clearScreen :: writeAllCells width (frames.getLastD first))).screen row col := by
  have hfirst := hdrawable first List.mem_cons_self
  have hlater : ∀ frame ∈ frames, frame.Drawable width ∧ frame.height = first.height ∧
      frame.width = first.width :=
    fun frame hmem => ⟨hdrawable frame (List.mem_cons_of_mem _ hmem), hsize frame hmem⟩
  have hshown := displays_writeLaterFrames hfirst hlater (displays_writeAllCells hfirst hlink hpaired)
  have hlast : (frames.getLastD first).Drawable width ∧
      (frames.getLastD first).height = first.height ∧
      (frames.getLastD first).width = first.width := by
    rcases List.mem_cons.mp List.getLastD_mem_cons with heq | hmem
    · rw [heq]
      exact ⟨hfirst, rfl, rfl⟩
    · exact hlater _ hmem
  have hcleared : ∀ r, Paired ((t'.apply width .clearScreen).screen r) :=
    fun _ => paired_blank
  have hfull := displays_writeAllCells hlast.1
    (show (t'.apply width .clearScreen).hyperlink = none from hlink') hcleared
  have hrow' : row < (frames.getLastD first).height := by rw [hlast.2.1]; exact hrow
  have hcol' : col < (frames.getLastD first).width := by rw [hlast.2.2]; exact hcol
  rw [HostTerminal.run_append, HostTerminal.run_cons, hshown.shown row hrow' col hcol',
    hfull.shown row hrow' col hcol']

end

def blankTerminal : HostTerminal := ⟨fun _ _ => .blank, (0, 0), true, 0, "", none⟩

/-- Two of the frames hold a wide symbol, in another place. -/
def movingRows : List FrameData :=
  [symbolRow ["世", " ", "a"], symbolRow ["a", "世", " "], symbolRow ["a", "b", "c"]]

lemma drawable_movingRows : ∀ frame ∈ movingRows, frame.Drawable overlappedWidth := by
  intro frame hframe
  simp only [movingRows, List.mem_cons, List.not_mem_nil, or_false] at hframe
  rcases hframe with rfl | rfl | rfl
  all_goals exact ⟨by decide +kernel, by decide +kernel, by decide +kernel⟩

theorem screen_writeLaterFrames_movingRows :
    ((blankTerminal.run overlappedWidth (writeAllCells overlappedWidth (symbolRow ["世", " ", "a"]) ++
      writeLaterFrames overlappedWidth (symbolRow ["世", " ", "a"])
        [symbolRow ["a", "世", " "], symbolRow ["a", "b", "c"]])).screen 0 1) =
    (blankTerminal.run overlappedWidth (.clearScreen ::
      writeAllCells overlappedWidth (symbolRow ["a", "b", "c"]))).screen 0 1 := by
  have hsize : ∀ frame ∈ [symbolRow ["a", "世", " "], symbolRow ["a", "b", "c"]],
      frame.height = 1 ∧ frame.width = 3 := by decide +kernel
  exact screen_writeLaterFrames drawable_movingRows hsize rfl rfl (fun _ => paired_blank)
    Nat.zero_lt_one (by decide)

end Ork3.Render
