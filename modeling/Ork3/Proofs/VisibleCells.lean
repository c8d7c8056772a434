import Mathlib.Data.List.Pairwise
import Ork3.Model.VisibleCells

/-!
# Where the characters of a text are displayed
-/

namespace Ork3.App

/-- Where the code takes the character to be. -/
def VisibleTextCell.printedChar (cell : VisibleTextCell) : PrintedChar :=
  ⟨cell.byteIndex, cell.ch, cell.screenRow, cell.screenCol⟩

section
variable {charWidth : Char → Nat} {paneWidth : Nat} {text : List Char} {byteIndex : Nat}

/-! ### One character -/

/-- The cursor of the code stands where the terminal's does. -/
structure CellCursor.Tracks (paneWidth : Nat) (cursor : CellCursor) (terminal : TerminalCursor) :
    Prop where
  row : cursor.screenRow = min terminal.row 65535
  col : cursor.screenCol = min terminal.used (paneWidth - 1)
  used : terminal.used ≤ paneWidth
  pending : cursor.pendingWrap = true ↔ terminal.used = paneWidth

variable {cursor : CellCursor} {terminal : TerminalCursor}

lemma CellCursor.wrapPast_of_le {row col : Nat} (hle : col ≤ paneWidth) :
    wrapPast paneWidth row col = (row, col) := by
  rw [wrapPast, if_neg (by omega)]

lemma CellCursor.tracks_newline (hpane : 0 < paneWidth) (h : cursor.Tracks paneWidth terminal) :
    cursor.newline.Tracks paneWidth ⟨terminal.row + 1, 0⟩ := by
  have hrow := h.row
  refine ⟨?_, by simp [newline], by simp, ?_⟩
  · simp only [newline, addSaturating]
    omega
  · simp only [newline, Bool.false_eq_true, false_iff]
    omega

/-- A character that fits in the row, or waits for the next one, is where the code takes it to be. -/
lemma CellCursor.wrap_eq_place {width : Nat} (hpane : 2 ≤ paneWidth) (hwidth : width = 1 ∨ width = 2)
    (heven : width = 2 → terminal.used + 1 ≠ paneWidth) (h : cursor.Tracks paneWidth terminal) :
    cursor.wrap.screenRow = min (terminal.place paneWidth width).row 65535 ∧
      cursor.wrap.screenCol = (terminal.place paneWidth width).used ∧
      (terminal.place paneWidth width).used + width ≤ paneWidth ∧
      cursor.wrap.pendingWrap = false := by
  have hrow := h.row
  have hcol := h.col
  have hused := h.used
  by_cases hfull : terminal.used = paneWidth
  · have hplace : terminal.place paneWidth width = ⟨terminal.row + 1, 0⟩ := by
      rw [TerminalCursor.place, if_neg (by omega)]
    rw [hplace, wrap, if_pos (h.pending.mpr hfull)]
    simp only [addSaturating]
    refine ⟨?_, True.intro, ?_, True.intro⟩ <;> omega
  · have hplace : terminal.place paneWidth width = terminal := by
      rw [TerminalCursor.place, if_pos (by omega)]
    have hpending : cursor.pendingWrap = false := by
      rw [← Bool.not_eq_true, h.pending]
      exact hfull
    rw [hplace, wrap, hpending, if_neg Bool.false_ne_true, hpending]
    refine ⟨hrow, ?_, ?_, rfl⟩ <;> omega

lemma CellCursor.tracks_advance {width row used : Nat} (hpane : 2 ≤ paneWidth)
    (hmax : paneWidth ≤ 65535) (hwidth : width = 1 ∨ width = 2) (hrow : cursor.screenRow = min row 65535)
    (hcol : cursor.screenCol = used) (hfits : used + width ≤ paneWidth)
    (hpending : cursor.pendingWrap = false) :
    (cursor.advance paneWidth width).Tracks paneWidth ⟨row, used + width⟩ := by
  have hadd : addSaturating cursor.screenCol width = used + width := by
    rw [addSaturating, hcol]
    omega
  have hpast : wrapPast paneWidth cursor.screenRow (addSaturating cursor.screenCol width) =
      (cursor.screenRow, used + width) := by
    rw [hadd, wrapPast_of_le hfits]
  have hpos : 0 < width := by omega
  refine ⟨?_, ?_, hfits, ?_⟩
  · simp only [advance, hpast]
    exact hrow
  · simp only [advance, hpast, hpos, true_and]
    by_cases hfull : used + width = paneWidth
    · rw [if_pos (by simpa using hfull)]
      omega
    · rw [if_neg (by simpa using hfull)]
      omega
  · simp only [advance, hpast, hpos, true_and, hpending, Bool.false_or, decide_eq_true_eq]

/-! ### The whole text -/

/-- The width of every character but the newline is 1 or 2. -/
def NarrowOrWide (charWidth : Char → Nat) (text : List Char) : Prop :=
  ∀ ch ∈ text, ch ≠ '\n' → charWidth ch = 1 ∨ charWidth ch = 2

lemma map_visibleTextCellsFrom_iff (hpane : 2 ≤ paneWidth) (hmax : paneWidth ≤ 65535)
    (hchars : NarrowOrWide charWidth text) (h : cursor.Tracks paneWidth terminal) :
    (visibleTextCellsFrom charWidth paneWidth text byteIndex cursor).map
        VisibleTextCell.printedChar = printedFrom charWidth paneWidth text byteIndex terminal ↔
      PrintsEvenlyFrom charWidth paneWidth text terminal := by
  induction text generalizing byteIndex cursor terminal with
  | nil => simp [visibleTextCellsFrom, printedFrom, PrintsEvenlyFrom]
  | cons ch rest ih =>
    have hrest : NarrowOrWide charWidth rest :=
      fun other hmem => hchars other (List.mem_cons_of_mem _ hmem)
    simp only [visibleTextCellsFrom, printedFrom, PrintsEvenlyFrom]
    by_cases hnewline : ch = '\n'
    · simp only [if_pos hnewline]
      exact ih hrest (CellCursor.tracks_newline (by omega) h)
    · have hwidth := hchars ch List.mem_cons_self hnewline
      simp only [if_neg hnewline, List.map_cons, List.cons.injEq]
      by_cases heven : charWidth ch = 2 → terminal.used + 1 ≠ paneWidth
      · obtain ⟨hrow, hcol, hfits, hpending⟩ := CellCursor.wrap_eq_place hpane hwidth heven h
        have hnext := CellCursor.tracks_advance hpane hmax hwidth hrow hcol hfits hpending
        rw [ih hrest hnext]
        simp only [VisibleTextCell.printedChar, PrintedChar.mk.injEq, hrow, hcol, true_and, and_true]
        have hmin : min (terminal.place paneWidth (charWidth ch)).row 65535 =
            (terminal.place paneWidth (charWidth ch)).row ↔
            (terminal.place paneWidth (charWidth ch)).row ≤ 65535 := by omega
        rw [hmin]
        tauto
      · -- The code leaves the first half of the character in the last column.
        push Not at heven
        obtain ⟨hwide, hedge⟩ := heven
        have hplace : terminal.place paneWidth (charWidth ch) = ⟨terminal.row + 1, 0⟩ := by
          rw [TerminalCursor.place, if_neg (by omega)]
        have hpending : ¬ cursor.pendingWrap = true := by
          rw [h.pending]
          omega
        have hwrap : cursor.wrap = cursor := by rw [CellCursor.wrap, if_neg hpending]
        have hcol := h.col
        constructor
        · intro hcells
          have hzero := congrArg PrintedChar.col hcells.1
          simp only [VisibleTextCell.printedChar, hwrap, hplace] at hzero
          omega
        · intro hprints
          exact absurd hedge (hprints.1 hwide)

/-! ### The character in a cell -/

/-- Nothing is printed before the cursor. -/
lemma printedFrom_behind (hchars : NarrowOrWide charWidth text) {shown : PrintedChar}
    (h : shown ∈ printedFrom charWidth paneWidth text byteIndex terminal) :
    terminal.row < shown.row ∨ terminal.row = shown.row ∧ terminal.used ≤ shown.col := by
  induction text generalizing byteIndex terminal with
  | nil => simp [printedFrom] at h
  | cons ch rest ih =>
    have hrest : NarrowOrWide charWidth rest :=
      fun other hmem => hchars other (List.mem_cons_of_mem _ hmem)
    have hplace : terminal.row < (terminal.place paneWidth (charWidth ch)).row ∨
        terminal = terminal.place paneWidth (charWidth ch) := by
      rw [TerminalCursor.place]
      split_ifs
      · exact Or.inr rfl
      · left
        simp
    simp only [printedFrom] at h
    by_cases hnewline : ch = '\n'
    · rw [if_pos hnewline] at h
      have hbehind := ih hrest h
      simp only at hbehind
      omega
    · rw [if_neg hnewline, List.mem_cons] at h
      generalize terminal.place paneWidth (charWidth ch) = placed at h hplace
      rcases h with rfl | h
      · rcases hplace with hlt | rfl
        · exact Or.inl hlt
        · exact Or.inr ⟨rfl, Nat.le_refl _⟩
      · have hbehind := ih hrest h
        simp only at hbehind
        rcases hplace with hlt | rfl <;> omega

/-- A cell displays one character at most. -/
lemma pairwise_printedFrom (hchars : NarrowOrWide charWidth text) :
    (printedFrom charWidth paneWidth text byteIndex terminal).Pairwise fun first second =>
      first.row < second.row ∨
        first.row = second.row ∧ first.col + charWidth first.ch ≤ second.col := by
  induction text generalizing byteIndex terminal with
  | nil => simp [printedFrom]
  | cons ch rest ih =>
    have hrest : NarrowOrWide charWidth rest :=
      fun other hmem => hchars other (List.mem_cons_of_mem _ hmem)
    simp only [printedFrom]
    by_cases hnewline : ch = '\n'
    · rw [if_pos hnewline]
      exact ih hrest
    · rw [if_neg hnewline, List.pairwise_cons]
      exact ⟨fun shown hshown => printedFrom_behind hrest hshown, ih hrest⟩

lemma eq_of_covers (hchars : NarrowOrWide charWidth text) {first second : PrintedChar}
    {row col : Nat} (hfirst : first ∈ printed charWidth paneWidth text)
    (hsecond : second ∈ printed charWidth paneWidth text) (h : first.Covers charWidth row col)
    (h' : second.Covers charWidth row col) : first = second := by
  have hpairs : (printed charWidth paneWidth text).Pairwise fun first second =>
      ¬ (first.Covers charWidth row col ∧ second.Covers charWidth row col) := by
    apply (pairwise_printedFrom hchars).imp
    intro first second hbefore hboth
    obtain ⟨⟨hrow, hle, hlt⟩, hrow', hle', hlt'⟩ := hboth
    omega
  by_contra hne
  have hsymm : Std.Symm fun first second : PrintedChar =>
      ¬ (first.Covers charWidth row col ∧ second.Covers charWidth row col) :=
    ⟨fun first second hnot hboth => hnot hboth.symm⟩
  exact hpairs.forall hfirst hsecond hne ⟨h, h'⟩

end

/-! ### Clicks -/

section
variable (charWidth : Char → Nat) (paneWidth : Nat) (text : List Char)

/-- Every character is taken to be where the terminal prints it, and every cell is mapped to the
character displayed there. -/
def ShowsAsPrinted : Prop :=
  (visibleTextCells charWidth paneWidth text).map VisibleTextCell.printedChar =
      printed charWidth paneWidth text ∧
    ∀ row col i,
      (logicalCellForVisibleCell charWidth paneWidth text row col).map
          VisibleTextCell.byteIndex = some i ↔
        ∃ shown ∈ printed charWidth paneWidth text,
          shown.byteIndex = i ∧ shown.Covers charWidth row col

end

section
variable {charWidth : Char → Nat} {paneWidth : Nat} {text : List Char}

lemma printed_col_le (hpane : 2 ≤ paneWidth) (hchars : NarrowOrWide charWidth text)
    {byteIndex : Nat} {terminal : TerminalCursor} {shown : PrintedChar}
    (h : shown ∈ printedFrom charWidth paneWidth text byteIndex terminal) :
    shown.col + charWidth shown.ch ≤ paneWidth ∧
      (charWidth shown.ch = 1 ∨ charWidth shown.ch = 2) := by
  induction text generalizing byteIndex terminal with
  | nil => simp [printedFrom] at h
  | cons ch rest ih =>
    have hrest : NarrowOrWide charWidth rest :=
      fun other hmem => hchars other (List.mem_cons_of_mem _ hmem)
    simp only [printedFrom] at h
    by_cases hnewline : ch = '\n'
    · rw [if_pos hnewline] at h
      exact ih hrest h
    · have hwidth := hchars ch List.mem_cons_self hnewline
      rw [if_neg hnewline, List.mem_cons] at h
      rcases h with rfl | h
      · refine ⟨?_, hwidth⟩
        by_cases hfits : terminal.used + charWidth ch ≤ paneWidth
        · simpa only [TerminalCursor.place, if_pos hfits] using hfits
        · simp only [TerminalCursor.place, if_neg hfits]
          omega
      · exact ih hrest h

/-- Between the cell that was clicked and the character displayed there. -/
lemma isAt_iff_covers (hmax : paneWidth ≤ 65535) {cell : VisibleTextCell} {row col : Nat}
    (hcol : cell.screenCol + charWidth cell.ch ≤ paneWidth)
    (hwidth : charWidth cell.ch = 1 ∨ charWidth cell.ch = 2) :
    cell.isAt charWidth row col = true ↔ cell.printedChar.Covers charWidth row col := by
  have hpos : charWidth cell.ch ≠ 0 := by omega
  have hadd : addSaturating cell.screenCol (charWidth cell.ch) =
      cell.screenCol + charWidth cell.ch := by
    rw [addSaturating]
    omega
  simp only [VisibleTextCell.isAt, if_neg hpos, hadd, Bool.and_eq_true, decide_eq_true_eq,
    PrintedChar.Covers, VisibleTextCell.printedChar]

lemma logicalCell_iff (hpane : 2 ≤ paneWidth) (hmax : paneWidth ≤ 65535)
    (hchars : NarrowOrWide charWidth text)
    (h : (visibleTextCells charWidth paneWidth text).map VisibleTextCell.printedChar =
      printed charWidth paneWidth text) (row col i : Nat) :
    (logicalCellForVisibleCell charWidth paneWidth text row col).map
        VisibleTextCell.byteIndex = some i ↔
      ∃ shown ∈ printed charWidth paneWidth text,
        shown.byteIndex = i ∧ shown.Covers charWidth row col := by
  have hmem : ∀ cell ∈ visibleTextCells charWidth paneWidth text,
      cell.printedChar ∈ printed charWidth paneWidth text := by
    intro cell hcell
    rw [← h]
    exact List.mem_map_of_mem hcell
  have hat : ∀ cell ∈ visibleTextCells charWidth paneWidth text,
      (cell.isAt charWidth row col = true ↔ cell.printedChar.Covers charWidth row col) := by
    intro cell hcell
    obtain ⟨hcol, hwidth⟩ := printed_col_le hpane hchars (hmem cell hcell)
    exact isAt_iff_covers hmax hcol hwidth
  rw [Option.map_eq_some_iff]
  constructor
  · rintro ⟨cell, hfind, rfl⟩
    have hcell := List.mem_of_find?_eq_some hfind
    exact ⟨_, hmem cell hcell, rfl, (hat cell hcell).mp (List.find?_some hfind)⟩
  · rintro ⟨shown, hshown, rfl, hcovers⟩
    obtain ⟨cell, hcell, rfl⟩ := List.mem_map.mp (h ▸ hshown)
    have hisSome : (logicalCellForVisibleCell charWidth paneWidth text row col).isSome = true :=
      List.find?_isSome.mpr ⟨cell, hcell, (hat cell hcell).mpr hcovers⟩
    obtain ⟨found, hfound⟩ := Option.isSome_iff_exists.mp hisSome
    have hfoundMem := List.mem_of_find?_eq_some hfound
    have hfoundCovers := (hat found hfoundMem).mp (List.find?_some hfound)
    have heq := eq_of_covers hchars (hmem found hfoundMem) hshown hfoundCovers hcovers
    exact ⟨found, hfound, congrArg PrintedChar.byteIndex heq⟩

/-- The cells are those of the terminal exactly when no wide character is printed with the cursor
in the last column, and no row beyond the `u16` range is printed in. -/
theorem showsAsPrinted_iff (hpane : 2 ≤ paneWidth) (hmax : paneWidth ≤ 65535)
    (hchars : NarrowOrWide charWidth text) :
    ShowsAsPrinted charWidth paneWidth text ↔ PrintsEvenly charWidth paneWidth text := by
  have htracks : CellCursor.Tracks paneWidth ⟨0, 0, 0, false⟩ ⟨0, 0⟩ := by
    refine ⟨by simp, by simp, by simp, ?_⟩
    simp only [Bool.false_eq_true, false_iff]
    omega
  have hcells : (visibleTextCellsFrom charWidth paneWidth text 0 ⟨0, 0, 0, false⟩).map
      VisibleTextCell.printedChar = printedFrom charWidth paneWidth text 0 ⟨0, 0⟩ ↔
        PrintsEvenlyFrom charWidth paneWidth text ⟨0, 0⟩ :=
    map_visibleTextCellsFrom_iff hpane hmax hchars htracks
  have hvisible : visibleTextCells charWidth paneWidth text =
      visibleTextCellsFrom charWidth paneWidth text 0 ⟨0, 0, 0, false⟩ := by
    rw [visibleTextCells, if_neg (by omega)]
  rw [PrintsEvenly, ← hcells, ← hvisible]
  constructor
  · intro h
    exact h.1
  · intro h
    exact ⟨h, logicalCell_iff hpane hmax hchars h⟩

end

/-! ### A wide character at the edge -/

def ideographWidth (ch : Char) : Nat := if ch = '世' then 2 else 1

/-- The terminal prints the wide character in the next row, the code leaves it in the last column. -/
theorem not_showsAsPrinted_wideAtEdge : ¬ ShowsAsPrinted ideographWidth 2 "a世".toList := by
  intro h
  exact absurd h.1 (by decide +kernel)

theorem showsAsPrinted_iff_wideInside : ShowsAsPrinted ideographWidth 3 "a世b".toList := by
  have hchars : NarrowOrWide ideographWidth "a世b".toList := by
    intro ch hmem hne
    rw [ideographWidth]
    split_ifs
    · exact Or.inr rfl
    · exact Or.inl rfl
  apply (showsAsPrinted_iff (by decide) (by decide) hchars).mpr
  simp [PrintsEvenly, PrintsEvenlyFrom, TerminalCursor.place, ideographWidth]

end Ork3.App
