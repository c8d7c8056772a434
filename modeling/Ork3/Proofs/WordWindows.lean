import Ork3.Proofs.WordMotion

/-!
# Growing windows

The loop of `word_motion_target` ends, and where it goes wrong.
-/

namespace Ork3.CopyMode

open Ork3.Library

/-- The cell of the atom ends in the column in which it begins. -/
def TextAtom.endsInItsColumn (atom : TextAtom) : Bool :=
  atom.point.any fun point => atom.endCol = point.col

namespace RetainedScreen

/-- The window of `64 * 2 ^ j` rows ends inside the target word and its edge is not seen: behind a
wide cell, or before a row that is not marked as a continuation. -/
def Misjudged (screen : RetainedScreen) (row col : Nat) (motion : TerminalWordMotion) (j : Nat) :
    Prop :=
  ∃ current, screen.wholeBuffer.atoms.findIdx? (·.shows row col) = some current ∧
    match motion with
    | .nextStart => False
    | .nextEnd => row + 64 * 2 ^ j < screen.totalRows ∧
      CutsWordAhead screen.wholeBuffer.atoms current (screen.atomsBefore (row + 64 * 2 ^ j)) ∧
      screen.wholeBuffer.atoms[screen.atomsBefore (row + 64 * 2 ^ j) - 1]?.any
        (·.endsInItsColumn) = false
    | .previousStart => 64 * 2 ^ j ≤ row ∧
      CutsWordBehind screen.wholeBuffer.atoms current
        (screen.atomsBefore (row + 1 - 64 * 2 ^ j)) ∧
      screen.rows[row + 1 - 64 * 2 ^ j]?.any (·.wrapContinuation) = false

/-! ### The three parts of the screen -/

/-- The atoms before, in and behind the rows from `s` to before `e`. -/
structure Segment (screen : RetainedScreen) (s e : Nat) (before inside behind : List TextAtom) :
    Prop where
  whole : screen.wholeBuffer.atoms = before ++ (inside ++ behind)
  window : (screen.windowBuffer (s, e)).atoms = inside
  length_before : before.length = screen.atomsBefore s
  length_inside : before.length + inside.length = screen.atomsBefore e
  rows_before : ∀ atom ∈ before, ∀ point, atom.point = some point → point.row < s
  rows_inside : ∀ atom ∈ inside, ∀ point, atom.point = some point → s ≤ point.row ∧ point.row < e
  rows_behind : ∀ atom ∈ behind, ∀ point, atom.point = some point → e ≤ point.row
  behind_nil : e = screen.totalRows → behind = []
  before_nil : s = 0 → before = []

section
variable {screen : RetainedScreen} {row col s e w j fuel current : Nat}
  {motion : TerminalWordMotion} {before inside behind : List TextAtom}
  {target : TerminalTextPoint} {result : Option TerminalTextPoint}

lemma pointed_whole (screen : RetainedScreen) : Pointed screen.wholeBuffer.atoms := by
  intro atom hatom
  rw [wholeBuffer_atoms] at hatom
  exact exists_point hatom

lemma exists_segment (screen : RetainedScreen) (s e : Nat) (hse : s ≤ e) (he : e ≤ screen.totalRows)
    (hs : s ≤ screen.numbered.length) : ∃ before inside behind,
    screen.Segment s e before inside behind := by
  have hlength := length_numbered screen
  have hbefore := before_append hse he hs
  refine ⟨(screen.windowBuffer (0, s)).atoms, (screen.windowBuffer (s, e)).atoms,
    rowsAtoms (min e screen.numbered.length) (screen.numbered.drop e),
    ⟨?_, rfl, rfl, ?_, ?_, ?_, ?_, ?_, ?_⟩⟩
  · exact (whole_append he).trans (by rw [hbefore, List.append_assoc])
  · unfold atomsBefore
    rw [hbefore, List.length_append]
  · intro atom hatom point hpoint
    rw [windowBuffer_atoms (Nat.zero_le _) (Nat.le_trans hse he) (Nat.zero_le _)] at hatom
    have hrow := (row_of_mem_rowsAtoms hatom hpoint).2
    rw [List.length_take] at hrow
    omega
  · intro atom hatom point hpoint
    rw [windowBuffer_atoms hse he (by omega)] at hatom
    obtain ⟨hle, hlt⟩ := row_of_mem_rowsAtoms hatom hpoint
    rw [List.length_take] at hlt
    omega
  · intro atom hatom point hpoint
    by_cases hcase : e ≤ screen.numbered.length
    · rw [Nat.min_eq_left hcase] at hatom
      exact (row_of_mem_rowsAtoms hatom hpoint).1
    · rw [List.drop_eq_nil_of_le (by omega)] at hatom
      cases hatom
  · intro heq
    rw [List.drop_eq_nil_of_le (by omega)]
    rfl
  · intro heq
    rw [heq, windowBuffer_atoms (Nat.le_refl _) (Nat.zero_le _) (Nat.zero_le _)]
    rfl

lemma Segment.pointed_inside (h : screen.Segment s e before inside behind) : Pointed inside := by
  intro atom hatom
  apply pointed_whole screen
  rw [h.whole]
  exact List.mem_append_right _ (List.mem_append_left _ hatom)

lemma not_shows {atom : TextAtom} (h : ∀ point, atom.point = some point → point.row ≠ row) :
    atom.shows row col = false := by
  unfold TextAtom.shows
  cases hpoint : atom.point with
  | none => rfl
  | some point => simp [h point hpoint]

/-- The atom of a cell is found in the window where it is found in the whole. -/
lemma Segment.findIdx (h : screen.Segment s e before inside behind) (hs : s ≤ row) (he : row < e) :
    screen.wholeBuffer.atoms.findIdx? (·.shows row col) =
      (inside.findIdx? (·.shows row col)).map (before.length + ·) := by
  have hbefore : before.findIdx? (·.shows row col) = none := by
    rw [List.findIdx?_eq_none_iff]
    intro atom hatom
    exact not_shows fun point hpoint => by
      have := h.rows_before atom hatom point hpoint
      omega
  have hbehind : behind.findIdx? (·.shows row col) = none := by
    rw [List.findIdx?_eq_none_iff]
    intro atom hatom
    exact not_shows fun point hpoint => by
      have := h.rows_behind atom hatom point hpoint
      omega
  rw [h.whole, List.findIdx?_append, hbefore, Option.none_or, List.findIdx?_append, hbehind,
    Option.map_none, Option.or_none]
  congr 1
  funext i
  exact Nat.add_comm _ _

/-! ### The end of the next word -/

/-- A word found in the window is the word of the whole, which may go on behind the window. -/
lemma Segment.wordAhead (h : screen.Segment s e before inside behind)
    (htarget : RetainedTextBuffer.nextWordEnd inside current = some target) :
    ∃ first stop stop' textClass, WordAhead inside current first stop textClass ∧
      WordAhead screen.wholeBuffer.atoms (before.length + current) (before.length + first)
        (before.length + stop') textClass ∧ stop ≤ stop' ∧ stop ≤ inside.length ∧
      (stop < inside.length → stop' = stop) := by
  obtain ⟨first, stop, textClass, hword⟩ := exists_wordAhead htarget
  obtain ⟨stop', hword', hle, hsame⟩ := hword.append_right behind
  have hstop : stop ≤ inside.length := by
    obtain ⟨atom, hatom, -⟩ :=
      exists_of_any (hword.word (stop - 1) (by have := hword.first_lt; omega)
        (by have := hword.first_lt; omega))
    have := (List.getElem?_eq_some_iff.mp hatom).1
    omega
  refine ⟨first, stop, stop', textClass, hword, ?_, hle, hstop, hsame⟩
  rw [h.whole]
  exact hword'.append_left before

/-- Behind a row that is not soft-wrapped stands the end of its line. -/
lemma softWrapped_of_getLast? {rows : List ScreenTextRow} {atom : TextAtom}
    (hlast : (rowsAtoms s rows).getLast? = some atom) (hclass : atom.textClass ≠ .whitespace)
    (hne : rows ≠ []) : rows.getLast?.any (·.softWrapped) = true := by
  obtain ⟨init, row, rfl⟩ := (List.eq_nil_or_concat' rows).resolve_left hne
  rw [List.getLast?_concat, Option.any_some]
  by_contra hwrapped
  rw [rowsAtoms_append, rowsAtoms, rowsAtoms, List.append_nil] at hlast
  unfold rowAtoms at hlast
  rw [if_neg hwrapped, ← List.append_assoc, List.getLast?_concat] at hlast
  rw [← Option.some.inj hlast] at hclass
  exact hclass rfl

lemma pointIsFinalAtom_concat {buffer : RetainedTextBuffer} {init : List TextAtom}
    {atom : TextAtom} (hatoms : buffer.atoms = init ++ [atom]) (hpoint : atom.point = some target) :
    buffer.pointIsFinalAtom target = atom.endsInItsColumn := by
  unfold RetainedTextBuffer.pointIsFinalAtom TextAtom.endsInItsColumn
  rw [hatoms, List.reverse_concat, List.find?_cons_of_pos (by rw [hpoint]; rfl)]
  simp [hpoint]

lemma windowPass_nextEnd (he : e = min (row + w) screen.totalRows) (hedge : e ≠ screen.totalRows) :
    screen.windowPass row col w .nextEnd =
      let target := (screen.windowBuffer (row, e)).wordMotion row col .nextEnd
      if target.any fun target => !((screen.screenTextRowsRange row e).getLast?.any
        (·.softWrapped) && (screen.windowBuffer (row, e)).pointIsFinalAtom target)
      then some target else none := by
  have hlt : e < screen.totalRows := by omega
  unfold windowPass windowRange reachedEdge
  dsimp only
  rw [← he]
  cases (screen.windowBuffer (row, e)).wordMotion row col .nextEnd with
  | none => simp [hedge]
  | some target => simp [hedge, hlt]

/-- The next word goes on over the edge of the window, which ends behind a wide cell. -/
def CutAhead (screen : RetainedScreen) (row col e : Nat) : Prop :=
  ∃ current, screen.wholeBuffer.atoms.findIdx? (·.shows row col) = some current ∧
    CutsWordAhead screen.wholeBuffer.atoms current (screen.atomsBefore e) ∧
    screen.wholeBuffer.atoms[screen.atomsBefore e - 1]?.any (·.endsInItsColumn) = false

lemma wordMotion_eq (h : screen.Segment s e before inside behind) (hs : s ≤ row) (he : row < e) :
    screen.wholeBuffer.wordMotion row col motion =
      (inside.findIdx? (·.shows row col)).bind fun current =>
        RetainedTextBuffer.motionFrom motion screen.wholeBuffer.atoms
          (before.length + current) := by
  unfold RetainedTextBuffer.wordMotion
  rw [h.findIdx hs he, Option.bind_map]
  rfl

lemma window_wordMotion (h : screen.Segment s e before inside behind) :
    (screen.windowBuffer (s, e)).wordMotion row col motion =
      (inside.findIdx? (·.shows row col)).bind
        (RetainedTextBuffer.motionFrom motion inside) := by
  unfold RetainedTextBuffer.wordMotion
  rw [h.window]

lemma Segment.getElem?_inside (h : screen.Segment s e before inside behind) {k : Nat}
    (hk : k < inside.length) : screen.wholeBuffer.atoms[before.length + k]? = inside[k]? := by
  rw [h.whole, List.getElem?_append_right (Nat.le_add_right _ _), Nat.add_sub_cancel_left,
    List.getElem?_append_left hk]

/-- Where the word reaches the end of the window, the last atom of the window is its last one. -/
lemma Segment.wrapped (h : screen.Segment row e before inside behind) (hre : row < e)
    (he : e < screen.totalRows) (hnumber : row < 2 ^ 32) {first : Nat} {textClass : TextClass}
    (hword : WordAhead inside current first inside.length textClass) :
    ∃ init atom point, inside = init ++ [atom] ∧ atom.point = some point ∧
      inside[inside.length - 1]? = some atom ∧
      (screen.screenTextRowsRange row e).getLast?.any (·.softWrapped) = true ∧
      (screen.windowBuffer (row, e)).pointIsFinalAtom point = atom.endsInItsColumn := by
  have hlength := length_numbered screen
  have hfirst := hword.first_lt
  obtain ⟨atom, hatom, hclass⟩ := exists_of_any (hword.word (inside.length - 1) (by omega)
    (by omega))
  have hne : atom.textClass ≠ .whitespace := by
    rw [of_decide_eq_true hclass]
    exact hword.class_ne
  obtain ⟨point, hpoint⟩ := h.pointed_inside atom (List.mem_of_getElem? hatom) hne
  rw [← List.getLast?_eq_getElem?] at hatom
  obtain ⟨init, hinside⟩ := List.getLast?_eq_some_iff.mp hatom
  refine ⟨init, atom, point, hinside, hpoint, ?_, ?_, pointIsFinalAtom_concat (h.window.trans
    hinside) hpoint⟩
  · rwa [← List.getLast?_eq_getElem?]
  · rw [screenTextRowsRange_eq (by omega) (by omega)]
    refine softWrapped_of_getLast? (s := row) (?_ : _ = some atom) ?_ ?_
    · rw [← windowBuffer_atoms (by omega) (by omega) (by omega), h.window]
      exact hatom
    · exact hne
    · intro hnil
      have hzero := congrArg List.length hnil
      rw [List.length_take, List.length_drop, List.length_nil] at hzero
      omega

/-- A window of a motion to the end of the next word that is taken as decided. -/
lemma nextEnd_decided (hrow : row < screen.totalRows) (hnumber : row < 2 ^ 32)
    (he : e = min (row + w) screen.totalRows) (hw : 0 < w) (hedge : e ≠ screen.totalRows)
    (h : screen.windowPass row col w .nextEnd = some result) :
    (result = screen.wholeBuffer.wordMotion row col .nextEnd ∧
      ∀ e', e ≤ e' → e' ≤ screen.totalRows → ¬screen.CutAhead row col e') ∨
    (result ≠ screen.wholeBuffer.wordMotion row col .nextEnd ∧ screen.CutAhead row col e) := by
  have hlength := length_numbered screen
  obtain ⟨before, inside, behind, hseg⟩ := exists_segment screen row e
    (by omega) (by omega) (by omega)
  rw [windowPass_nextEnd he hedge, window_wordMotion hseg] at h
  dsimp only at h
  split at h
  · next hdecided =>
    obtain rfl := Option.some.inj h
    obtain ⟨target, htarget, hunseen⟩ := (Option.any_eq_true _ _).mp hdecided
    obtain ⟨current, hcurrent, hend⟩ := Option.bind_eq_some_iff.mp htarget
    obtain ⟨first, stop, stop', textClass, hword, hwhole, hle, hstop, hsame⟩ := hseg.wordAhead hend
    have hfirst := hword.first_lt
    have hfound : screen.wholeBuffer.atoms.findIdx? (·.shows row col) =
        some (before.length + current) := by
      rw [hseg.findIdx (Nat.le_refl _) (by omega), hcurrent, Option.map_some]
    have hfull : screen.wholeBuffer.wordMotion row col .nextEnd =
        screen.wholeBuffer.atoms[before.length + stop' - 1]?.bind (·.point) := by
      unfold RetainedTextBuffer.wordMotion
      rw [hfound]
      exact hwhole.nextWordEnd_eq (pointed_whole screen)
    have hpart : some target = inside[stop - 1]?.bind (·.point) := by
      rw [← hword.nextWordEnd_eq hseg.pointed_inside]
      exact hend.symm
    rw [hfull, htarget, hpart]
    by_cases hcase : stop' = stop
    · left
      subst hcase
      refine ⟨?_, ?_⟩
      · rw [Nat.add_sub_assoc (by omega), hseg.getElem?_inside (by omega)]
      · rintro e' hee' he' ⟨current', hcurrent', hcuts, -⟩
        rw [hfound] at hcurrent'
        obtain rfl := Option.some.inj hcurrent'
        have hmono := atomsBefore_mono hee' he'
        have hcut := (hwhole.cuts_iff.mp hcuts).2
        have hinside := hseg.length_inside
        omega
    · right
      obtain rfl : stop = inside.length := by
        by_contra hne
        exact hcase (hsame (by omega))
      obtain ⟨init, atom, point, hinside, hpoint, hlast, hwrapped, hfinal⟩ :=
        hseg.wrapped (by omega) (by omega) hnumber hword
      have htarget' : target = point := by
        rw [hlast, Option.bind_some, hpoint] at hpart
        exact Option.some.inj hpart
      have hcolumn : atom.endsInItsColumn = false := by
        rw [htarget', hwrapped, hfinal] at hunseen
        simpa using hunseen
      refine ⟨?_, before.length + current, hfound, ?_, ?_⟩
      · intro heq
        rw [← hpart] at heq
        obtain ⟨other, hother, hpoint'⟩ := Option.bind_eq_some_iff.mp heq.symm
        rw [hseg.whole, List.getElem?_append_right (by omega),
          List.getElem?_append_right (by omega)] at hother
        have hbehind := hseg.rows_behind other (List.mem_of_getElem? hother) target hpoint'
        have hrows := hseg.rows_inside atom (List.mem_of_getElem? hlast) point hpoint
        rw [htarget'] at hbehind
        omega
      · have hlengths := hseg.length_inside
        exact hwhole.cuts_iff.mpr ⟨by omega, by omega⟩
      · rw [← hseg.length_inside, Nat.add_sub_assoc (by omega), hseg.getElem?_inside (by omega),
          hlast, Option.any_some, hcolumn]
  · cases h

/-- A window is enlarged only where no wide cell hides that the word goes on. -/
lemma nextEnd_undecided (hrow : row < screen.totalRows) (hnumber : row < 2 ^ 32)
    (he : e = min (row + w) screen.totalRows) (hw : 0 < w) (hedge : e ≠ screen.totalRows)
    (h : screen.windowPass row col w .nextEnd = none) : ¬screen.CutAhead row col e := by
  rintro ⟨current', hfound, hcuts, hcolumn⟩
  have hlength := length_numbered screen
  obtain ⟨before, inside, behind, hseg⟩ := exists_segment screen row e
    (by omega) (by omega) (by omega)
  rw [hseg.findIdx (Nat.le_refl _) (by omega)] at hfound
  obtain ⟨current, hcurrent, rfl⟩ := Option.map_eq_some_iff.mp hfound
  obtain ⟨first, textClass, hne, hlt, hcut, hblank, hrun⟩ := hcuts
  rw [← hseg.length_inside] at hcut hrun hcolumn
  have hword : WordAhead inside current (first - before.length) inside.length textClass := by
    refine ⟨hne, by omega, by omega, fun k hk hkf => ?_, fun k hk hki => ?_, ?_⟩
    · rw [← hseg.getElem?_inside (by omega)]
      exact hblank _ (by omega) (by omega)
    · rw [← hseg.getElem?_inside hki]
      exact hrun _ (by omega) (by omega)
    · rw [List.getElem?_eq_none (Nat.le_refl _)]
      rfl
  have hfirst := hword.first_lt
  obtain ⟨init, atom, point, hinside, hpoint, hlast, hwrapped, hfinal⟩ :=
    hseg.wrapped (by omega) (by omega) hnumber hword
  have hcolumn' : atom.endsInItsColumn = false := by
    rwa [Nat.add_sub_assoc (by omega), hseg.getElem?_inside (by omega), hlast,
      Option.any_some] at hcolumn
  have htarget : RetainedTextBuffer.nextWordEnd inside current = some point := by
    rw [hword.nextWordEnd_eq hseg.pointed_inside, hlast, Option.bind_some, hpoint]
  rw [windowPass_nextEnd he hedge, window_wordMotion hseg, hcurrent, Option.bind_some] at h
  unfold RetainedTextBuffer.motionFrom at h
  simp only [htarget, Option.any_some, hfinal, hcolumn', Bool.and_false, Bool.not_false, if_true,
    reduceCtorEq] at h

/-! ### The start of the word before -/

lemma Segment.wordBehind (h : screen.Segment s e before inside behind)
    (htarget : RetainedTextBuffer.previousWordStart inside current = some target)
    (hcurrent : current < inside.length) :
    ∃ first first' last textClass, WordBehind inside current first last textClass ∧
      WordBehind screen.wholeBuffer.atoms (before.length + current) first' (before.length + last)
        textClass ∧ first' ≤ before.length + first ∧
      (0 < first → first' = before.length + first) := by
  obtain ⟨first, last, textClass, hword⟩ := exists_wordBehind htarget
  obtain ⟨first', hword', hle, hsame⟩ :=
    (hword.append_right (Nat.le_of_lt hcurrent) behind).append_left before
  refine ⟨first, first', last, textClass, hword, ?_, hle, hsame⟩
  rw [h.whole]
  exact hword'

/-- The first atom of the window belongs to its first row. -/
lemma Segment.head (h : screen.Segment s e before inside behind) (hse : s < e)
    (he : e ≤ screen.totalRows) (hnumber : s < 2 ^ 32) :
    ∃ atom, inside[0]? = some atom ∧ atom.point = some ⟨s, 0⟩ := by
  have hlength := length_numbered screen
  rw [← h.window, windowBuffer_atoms (Nat.le_of_lt hse) he (Nat.le_of_lt hnumber)]
  cases hrows : (screen.numbered.drop s).take (e - s) with
  | nil =>
    have hzero := congrArg List.length hrows
    rw [List.length_take, List.length_drop, List.length_nil] at hzero
    omega
  | cons row rows =>
    have hmem : row ∈ screen.numbered := by
      apply List.mem_of_mem_drop (i := s)
      apply List.mem_of_mem_take (i := e - s)
      rw [hrows]
      exact List.mem_cons_self
    obtain ⟨atom, rest, hpoint, -, hatoms⟩ :=
      cellAtoms_wellFormed (numbered_wellFormed hmem).1 s .whitespace
    refine ⟨atom, ?_, hpoint⟩
    rw [rowsAtoms, rowAtoms, hatoms]
    rfl

lemma head_screenTextRowsRange (hse : s < e) (he : e ≤ screen.totalRows) (hnumber : s < 2 ^ 32) :
    (screen.screenTextRowsRange s e).head? = screen.rows[s]? := by
  rw [screenTextRowsRange_eq (Nat.le_of_lt hse) he, List.head?_take, if_neg (by omega),
    List.head?_drop]
  exact List.getElem?_take_of_lt hnumber

lemma windowPass_previousStart (hs : s = row - (w - 1)) (hedge : s ≠ 0) :
    screen.windowPass row col w .previousStart =
      let target := (screen.windowBuffer (s, row + 1)).wordMotion row col .previousStart
      if target.any fun target => !((screen.screenTextRowsRange s (row + 1)).head?.any
        (·.wrapContinuation) && target.row = s)
      then some target else none := by
  have hpos : 0 < s := Nat.pos_of_ne_zero hedge
  unfold windowPass windowRange reachedEdge
  dsimp only
  rw [← hs]
  cases (screen.windowBuffer (s, row + 1)).wordMotion row col .previousStart with
  | none => simp [hedge]
  | some target => simp [hedge, hpos]

/-- The word before goes on over the edge of the window, whose first row is not marked as a
continuation. -/
def CutBehind (screen : RetainedScreen) (row col s : Nat) : Prop :=
  ∃ current, screen.wholeBuffer.atoms.findIdx? (·.shows row col) = some current ∧
    CutsWordBehind screen.wholeBuffer.atoms current (screen.atomsBefore s) ∧
    screen.rows[s]?.any (·.wrapContinuation) = false

/-- A window of a motion to the start of the word before that is taken as decided. -/
lemma previousStart_decided (hrow : row < screen.totalRows) (hnumber : row < 2 ^ 32)
    (hs : s = row - (w - 1)) (hedge : s ≠ 0)
    (h : screen.windowPass row col w .previousStart = some result) :
    (result = screen.wholeBuffer.wordMotion row col .previousStart ∧
      ∀ s' ≤ s, ¬screen.CutBehind row col s') ∨
    (result ≠ screen.wholeBuffer.wordMotion row col .previousStart ∧
      screen.CutBehind row col s) := by
  have hlength := length_numbered screen
  obtain ⟨before, inside, behind, hseg⟩ := exists_segment screen s (row + 1)
    (by omega) (by omega) (by omega)
  rw [windowPass_previousStart hs hedge, window_wordMotion hseg] at h
  dsimp only at h
  split at h
  · next hdecided =>
    obtain rfl := Option.some.inj h
    obtain ⟨target, htarget, hunseen⟩ := (Option.any_eq_true _ _).mp hdecided
    obtain ⟨current, hcurrent, hstart⟩ := Option.bind_eq_some_iff.mp htarget
    have hcurrent_lt : current < inside.length := (List.findIdx?_eq_some_iff_getElem.mp hcurrent).1
    obtain ⟨first, first', last, textClass, hword, hwhole, hle, hsame⟩ :=
      hseg.wordBehind hstart hcurrent_lt
    have hfirst := hword.first_le
    have hlast := hword.last_lt
    have hfound : screen.wholeBuffer.atoms.findIdx? (·.shows row col) =
        some (before.length + current) := by
      rw [hseg.findIdx (by omega) (by omega), hcurrent, Option.map_some]
    have hfull : screen.wholeBuffer.wordMotion row col .previousStart =
        screen.wholeBuffer.atoms[first']?.bind (·.point) := by
      unfold RetainedTextBuffer.wordMotion
      rw [hfound]
      exact hwhole.previousWordStart_eq (pointed_whole screen)
    have hpart : some target = inside[first]?.bind (·.point) := by
      rw [← hword.previousWordStart_eq hseg.pointed_inside]
      exact hstart.symm
    rw [hfull, htarget, hpart]
    by_cases hcase : first' = before.length + first
    · left
      subst hcase
      refine ⟨by rw [hseg.getElem?_inside (by omega)], ?_⟩
      rintro s' hs' ⟨current', hcurrent', hcuts, -⟩
      rw [hfound] at hcurrent'
      obtain rfl := Option.some.inj hcurrent'
      have hmono : screen.atomsBefore s' ≤ screen.atomsBefore s := atomsBefore_mono hs' (by omega)
      have hcut := (hwhole.cuts_iff.mp hcuts).1
      have hbefore := hseg.length_before
      omega
    · right
      obtain rfl : first = 0 := by
        by_contra hne
        exact hcase (hsame (by omega))
      obtain ⟨atom, hatom, hpoint⟩ := hseg.head (by omega) (by omega) (by omega)
      have htarget' : target = ⟨s, 0⟩ := by
        rw [hatom, Option.bind_some, hpoint] at hpart
        exact Option.some.inj hpart
      refine ⟨?_, before.length + current, hfound, ?_, ?_⟩
      · intro heq
        rw [← hpart] at heq
        obtain ⟨other, hother, hpoint'⟩ := Option.bind_eq_some_iff.mp heq.symm
        rw [hseg.whole, List.getElem?_append_left (by omega)] at hother
        have hbefore := hseg.rows_before other (List.mem_of_getElem? hother) target hpoint'
        rw [htarget'] at hbefore
        exact Nat.lt_irrefl _ hbefore
      · rw [← hseg.length_before]
        exact hwhole.cuts_iff.mpr ⟨by omega, by omega⟩
      · rw [head_screenTextRowsRange (by omega) (by omega) (by omega), htarget'] at hunseen
        simpa using hunseen
  · cases h

/-- A window is enlarged only where a mark shows that the word may go on. -/
lemma previousStart_undecided (hrow : row < screen.totalRows) (hnumber : row < 2 ^ 32)
    (hs : s = row - (w - 1)) (hedge : s ≠ 0)
    (h : screen.windowPass row col w .previousStart = none) : ¬screen.CutBehind row col s := by
  rintro ⟨current', hfound, hcuts, hmark⟩
  have hlength := length_numbered screen
  obtain ⟨before, inside, behind, hseg⟩ := exists_segment screen s (row + 1)
    (by omega) (by omega) (by omega)
  rw [hseg.findIdx (by omega) (by omega)] at hfound
  obtain ⟨current, hcurrent, rfl⟩ := Option.map_eq_some_iff.mp hfound
  have hcurrent_lt : current < inside.length := (List.findIdx?_eq_some_iff_getElem.mp hcurrent).1
  obtain ⟨last, textClass, hne, hlt, hpos, hcut, hblank, hrun⟩ := hcuts
  rw [← hseg.length_before] at hcut hrun hpos
  have hword : WordBehind inside current 0 (last - before.length) textClass := by
    refine ⟨hne, Nat.zero_le _, by omega, fun k hk hkc => ?_, fun k hk hkl => ?_, .inl rfl⟩
    · rw [← hseg.getElem?_inside (by omega)]
      exact hblank _ (by omega) (by omega)
    · rw [← hseg.getElem?_inside (by omega)]
      exact hrun _ (by omega) (by omega)
  obtain ⟨atom, hatom, hpoint⟩ := hseg.head (by omega) (by omega) (by omega)
  have htarget : RetainedTextBuffer.previousWordStart inside current = some ⟨s, 0⟩ := by
    rw [hword.previousWordStart_eq hseg.pointed_inside, hatom, Option.bind_some, hpoint]
  rw [windowPass_previousStart hs hedge, window_wordMotion hseg, hcurrent, Option.bind_some,
    head_screenTextRowsRange (by omega) (by omega) (by omega)] at h
  unfold RetainedTextBuffer.motionFrom at h
  simp only [htarget, Option.any_some, hmark, Bool.false_and, Bool.not_false, if_true,
    reduceCtorEq] at h

/-! ### The loop -/

lemma windowPass_nextStart (he : e = min (row + w) screen.totalRows)
    (hedge : e ≠ screen.totalRows) :
    screen.windowPass row col w .nextStart =
      let target := (screen.windowBuffer (row, e)).wordMotion row col .nextStart
      if target.isSome then some target else none := by
  unfold windowPass windowRange reachedEdge
  dsimp only
  rw [← he]
  cases (screen.windowBuffer (row, e)).wordMotion row col .nextStart with
  | none => simp [hedge]
  | some target => simp

lemma nextStart_decided (hrow : row < screen.totalRows) (hnumber : row < 2 ^ 32)
    (he : e = min (row + w) screen.totalRows) (hw : 0 < w) (hedge : e ≠ screen.totalRows)
    (h : screen.windowPass row col w .nextStart = some result) :
    result = screen.wholeBuffer.wordMotion row col .nextStart := by
  have hlength := length_numbered screen
  obtain ⟨before, inside, behind, hseg⟩ := exists_segment screen row e
    (by omega) (by omega) (by omega)
  rw [windowPass_nextStart he hedge, window_wordMotion hseg] at h
  dsimp only at h
  split at h
  · next hdecided =>
    obtain rfl := Option.some.inj h
    obtain ⟨target, htarget⟩ := Option.isSome_iff_exists.mp hdecided
    obtain ⟨current, hcurrent, hstart⟩ := Option.bind_eq_some_iff.mp htarget
    rw [htarget, wordMotion_eq hseg (Nat.le_refl _) (by omega), hcurrent, Option.bind_some,
      hseg.whole]
    have hright := nextWordStart_append_right hstart behind
    exact (nextWordStart_append_left before).trans hright |>.symm
  · cases h

/-- A window that reaches the edge of the screen shows what the whole screen shows. -/
lemma windowPass_edge (hrow : row < screen.totalRows) (hnumber : row < 2 ^ 32)
    (hedge : screen.reachedEdge (screen.windowRange row w motion) motion = true) :
    screen.windowPass row col w motion = some (screen.wholeBuffer.wordMotion row col motion) := by
  have hlength := length_numbered screen
  have hpass : screen.windowPass row col w motion =
      some ((screen.windowBuffer (screen.windowRange row w motion)).wordMotion row col motion) := by
    unfold windowPass
    dsimp only
    rw [hedge]
    split <;> rfl
  rw [hpass]
  congr 1
  have hforward : ∀ e, e = min (row + w) screen.totalRows → e = screen.totalRows →
      (motion = .nextStart ∨ motion = .nextEnd) →
      (screen.windowBuffer (row, e)).wordMotion row col motion =
        screen.wholeBuffer.wordMotion row col motion := by
    intro e he htotal hmotion
    obtain ⟨before, inside, behind, hseg⟩ := exists_segment screen row e
      (by omega) (by omega) (by omega)
    have hwhole : screen.wholeBuffer.atoms = before ++ inside := by
      rw [hseg.whole, hseg.behind_nil htotal, List.append_nil]
    rw [window_wordMotion hseg, wordMotion_eq hseg (Nat.le_refl _) (by omega), hwhole]
    apply Option.bind_congr
    intro current hcurrent
    rcases hmotion with rfl | rfl
    · exact (nextWordStart_append_left before).symm
    · exact (nextWordEnd_append_left before hseg.pointed_inside
        (hwhole ▸ pointed_whole screen)).symm
  cases motion with
  | nextStart => exact hforward _ rfl (of_decide_eq_true hedge) (.inl rfl)
  | nextEnd => exact hforward _ rfl (of_decide_eq_true hedge) (.inr rfl)
  | previousStart =>
    have hzero : row - (w - 1) = 0 := of_decide_eq_true hedge
    obtain ⟨before, inside, behind, hseg⟩ := exists_segment screen
      (row - (w - 1)) (row + 1) (by omega) (by omega) (by omega)
    change (screen.windowBuffer (row - (w - 1), row + 1)).wordMotion row col .previousStart = _
    rw [window_wordMotion hseg, wordMotion_eq hseg (by omega) (by omega), hseg.whole,
      hseg.before_nil hzero]
    apply Option.bind_congr
    intro current hcurrent
    rw [List.length_nil, Nat.zero_add, List.nil_append]
    exact (previousWordStart_append
      (List.findIdx?_eq_some_iff_getElem.mp hcurrent).1 behind).symm

/-- What is returned for a window inside the screen is right unless the window is misjudged, and
then no larger window would be. -/
lemma pass_decided (hrow : row < screen.totalRows) (hnumber : row < 2 ^ 32)
    (hedge : screen.reachedEdge (screen.windowRange row (64 * 2 ^ j) motion) motion ≠ true)
    (h : screen.windowPass row col (64 * 2 ^ j) motion = some result) :
    (result = screen.wholeBuffer.wordMotion row col motion ∧
      ∀ i, j ≤ i → ¬screen.Misjudged row col motion i) ∨
    (result ≠ screen.wholeBuffer.wordMotion row col motion ∧
      screen.Misjudged row col motion j) := by
  have hpos : 0 < 2 ^ j := Nat.two_pow_pos j
  cases motion with
  | nextStart =>
    have hlt : min (row + 64 * 2 ^ j) screen.totalRows ≠ screen.totalRows :=
      fun heq => hedge (decide_eq_true heq)
    exact .inl ⟨nextStart_decided hrow hnumber rfl (by omega) hlt h,
      fun i _ ⟨_, _, hfalse⟩ => hfalse⟩
  | nextEnd =>
    have hlt : min (row + 64 * 2 ^ j) screen.totalRows ≠ screen.totalRows :=
      fun heq => hedge (decide_eq_true heq)
    have hmin : min (row + 64 * 2 ^ j) screen.totalRows = row + 64 * 2 ^ j := by omega
    rcases nextEnd_decided hrow hnumber hmin.symm (by omega) (hmin ▸ hlt) h with
      ⟨hsame, hlater⟩ | ⟨hother, current, hfound, hcuts, hcolumn⟩
    · refine .inl ⟨hsame, fun i hij ⟨current, hfound, hi, hcuts, hcolumn⟩ => ?_⟩
      have hpow : 2 ^ j ≤ 2 ^ i := Nat.pow_le_pow_right (by omega) hij
      exact hlater _ (by omega) (by omega) ⟨current, hfound, hcuts, hcolumn⟩
    · exact .inr ⟨hother, current, hfound, by omega, hcuts, hcolumn⟩
  | previousStart =>
    have hne : row - (64 * 2 ^ j - 1) ≠ 0 := fun heq => hedge (decide_eq_true heq)
    have hsub : row - (64 * 2 ^ j - 1) = row + 1 - 64 * 2 ^ j := by omega
    rcases previousStart_decided hrow hnumber hsub.symm (hsub ▸ hne) h with
      ⟨hsame, hlater⟩ | ⟨hother, current, hfound, hcuts, hmark⟩
    · refine .inl ⟨hsame, fun i hij ⟨current, hfound, hi, hcuts, hmark⟩ => ?_⟩
      have hpow : 2 ^ j ≤ 2 ^ i := Nat.pow_le_pow_right (by omega) hij
      exact hlater _ (by omega) ⟨current, hfound, hcuts, hmark⟩
    · exact .inr ⟨hother, current, hfound, by omega, hcuts, hmark⟩

lemma pass_undecided (hrow : row < screen.totalRows) (hnumber : row < 2 ^ 32)
    (hedge : screen.reachedEdge (screen.windowRange row (64 * 2 ^ j) motion) motion ≠ true)
    (h : screen.windowPass row col (64 * 2 ^ j) motion = none) :
    ¬screen.Misjudged row col motion j := by
  have hpos : 0 < 2 ^ j := Nat.two_pow_pos j
  rintro ⟨current, hfound, hcase⟩
  cases motion with
  | nextStart => exact hcase
  | nextEnd =>
    obtain ⟨hlt, hcuts, hcolumn⟩ := hcase
    have hmin : row + 64 * 2 ^ j = min (row + 64 * 2 ^ j) screen.totalRows := by omega
    exact nextEnd_undecided hrow hnumber hmin (by omega) (by omega) h
      ⟨current, hfound, hcuts, hcolumn⟩
  | previousStart =>
    obtain ⟨hle, hcuts, hmark⟩ := hcase
    have hsub : row + 1 - 64 * 2 ^ j = row - (64 * 2 ^ j - 1) := by omega
    exact previousStart_undecided hrow hnumber hsub (by omega) h ⟨current, hfound, hcuts, hmark⟩

lemma not_misjudged_of_edge (hrow : row < screen.totalRows)
    (hw : w ≤ 64 * 2 ^ j ∨ screen.totalRows ≤ 64 * 2 ^ j) (hpos : 0 < w)
    (hedge : screen.reachedEdge (screen.windowRange row w motion) motion = true) :
    ¬screen.Misjudged row col motion j := by
  rintro ⟨current, hfound, hcase⟩
  cases motion with
  | nextStart => exact hcase
  | nextEnd =>
    have hlt := hcase.1
    have heq : min (row + w) screen.totalRows = screen.totalRows := of_decide_eq_true hedge
    omega
  | previousStart =>
    have hle := hcase.1
    have heq : row - (w - 1) = 0 := of_decide_eq_true hedge
    omega

lemma edge_of_totalRows_le (hrow : row < screen.totalRows) (hw : screen.totalRows ≤ w) :
    screen.reachedEdge (screen.windowRange row w motion) motion = true := by
  unfold reachedEdge windowRange
  cases motion with
  | nextStart => exact decide_eq_true (show min (row + w) screen.totalRows = _ by omega)
  | nextEnd => exact decide_eq_true (show min (row + w) screen.totalRows = _ by omega)
  | previousStart => exact decide_eq_true (show row - (w - 1) = 0 by omega)

/-- The loop from the window of pass `j` on ends, and returns the target of the whole screen where
no window from there on is misjudged. -/
lemma growWindow_spec (hrow : row < screen.totalRows) (hnumber : row < 2 ^ 32)
    (hw : w = 64 * 2 ^ j ∨ (screen.totalRows ≤ w ∧ screen.totalRows ≤ 64 * 2 ^ j))
    (hpos : 0 < w) (hfuel : screen.totalRows - w < fuel) :
    ∃ result, screen.growWindow row col motion fuel w = some result ∧
      (result = screen.wholeBuffer.wordMotion row col motion ↔
        ∀ i, j ≤ i → ¬screen.Misjudged row col motion i) := by
  induction fuel generalizing w j with
  | zero => omega
  | succ fuel ih =>
    unfold growWindow
    by_cases hedge : screen.reachedEdge (screen.windowRange row w motion) motion = true
    · refine ⟨_, by rw [windowPass_edge hrow hnumber hedge], iff_of_true rfl ?_⟩
      intro i hij
      have hpow : 2 ^ j ≤ 2 ^ i := Nat.pow_le_pow_right (by omega) hij
      exact not_misjudged_of_edge hrow (by omega) hpos hedge
    · have hlt : w < screen.totalRows := by
        by_contra hle
        exact hedge (edge_of_totalRows_le hrow (by omega))
      obtain rfl : w = 64 * 2 ^ j := hw.resolve_right (fun h => by omega)
      cases hpass : screen.windowPass row col (64 * 2 ^ j) motion with
      | some result =>
        refine ⟨result, rfl, ?_⟩
        rcases pass_decided hrow hnumber hedge hpass with ⟨hsame, hnone⟩ | ⟨hother, hmisjudged⟩
        · exact iff_of_true hsame hnone
        · exact iff_of_false hother fun hnone => hnone j (Nat.le_refl j) hmisjudged
      | none =>
        have hdouble : 64 * 2 ^ (j + 1) = 64 * 2 ^ j * 2 := by rw [Nat.pow_succ, Nat.mul_assoc]
        obtain ⟨result, hresult, hiff⟩ := ih (w := min (64 * 2 ^ j * 2) screen.totalRows)
          (j := j + 1) (by omega) (by omega) (by omega)
        refine ⟨result, hresult, hiff.trans ⟨fun hnone i hij => ?_, fun hnone i hij => ?_⟩⟩
        · rcases Nat.eq_or_lt_of_le hij with rfl | hlt'
          · exact pass_undecided hrow hnumber hedge hpass
          · exact hnone i hlt'
        · exact hnone i (Nat.le_of_succ_le hij)

lemma growWindow_mono {more : Nat} (h : screen.growWindow row col motion fuel w = some result)
    (hmore : fuel ≤ more) : screen.growWindow row col motion more w = some result := by
  induction fuel generalizing w more with
  | zero => cases h
  | succ fuel ih =>
    obtain ⟨more, rfl⟩ := Nat.exists_eq_add_of_le' (Nat.lt_of_lt_of_le (Nat.succ_pos fuel) hmore)
    unfold growWindow at h ⊢
    cases hpass : screen.windowPass row col w motion with
    | some target =>
      rw [hpass] at h
      exact h
    | none =>
      rw [hpass] at h
      exact ih h (by omega)

lemma findIdx_of_totalRows_le (hrow : screen.totalRows ≤ row) :
    screen.wholeBuffer.atoms.findIdx? (·.shows row col) = none := by
  have hlength := length_numbered screen
  rw [List.findIdx?_eq_none_iff]
  intro atom hatom
  rw [wholeBuffer_atoms] at hatom
  exact not_shows fun point hpoint => by
    have := (row_of_mem_rowsAtoms hatom hpoint).2
    omega

/-- The loop ends, and its target is the one on the buffer of all rows exactly where no window is
misjudged. -/
theorem wordMotionTarget_iff (screen : RetainedScreen) (row : UInt32) (col : UInt16)
    (motion : TerminalWordMotion) :
    ∃ result,
      (∀ fuel, screen.totalRows < fuel →
        wordMotionTarget fuel screen row col motion = some result) ∧
      (result = screen.wholeBuffer.wordMotion row.toNat col.toNat motion ↔
        ∀ j, ¬screen.Misjudged row.toNat col.toNat motion j) := by
  unfold wordMotionTarget
  by_cases hrow : screen.totalRows ≤ row.toNat
  · have hnone : screen.wholeBuffer.atoms.findIdx? (·.shows row.toNat col.toNat) = none :=
      findIdx_of_totalRows_le hrow
    refine ⟨none, fun fuel _ => if_pos hrow, iff_of_true ?_ ?_⟩
    · unfold RetainedTextBuffer.wordMotion
      rw [hnone]
      rfl
    · rintro j ⟨current, hfound, -⟩
      rw [hnone] at hfound
      cases hfound
  · obtain ⟨result, hresult, hiff⟩ : ∃ result,
        screen.growWindow row.toNat col.toNat motion (screen.totalRows + 1) 64 = some result ∧
          (result = screen.wholeBuffer.wordMotion row.toNat col.toNat motion ↔
            ∀ j, 0 ≤ j → ¬screen.Misjudged row.toNat col.toNat motion j) :=
      growWindow_spec (by omega) row.toNat_lt (.inl rfl) (by omega) (by omega)
    refine ⟨result, fun fuel hfuel => ?_, hiff.trans ⟨fun h j => h j (Nat.zero_le j),
      fun h j _ => h j⟩⟩
    rw [if_neg hrow]
    exact growWindow_mono hresult hfuel

end

/-! ### A word of wide characters -/

def wideRow : ScreenTextRow where
  cells := [⟨.wide, [0x754c]⟩, ⟨.spacerTail, []⟩]
  softWrapped := true
  wrapContinuation := true

/-- A word of wide characters, one in each row. -/
def wideWord : RetainedScreen where
  cols := 2
  rows := List.replicate 66 wideRow
  activeScreen := .primary
  cols_lt := by decide
  length_cells row hrow := by
    rw [List.eq_of_mem_replicate hrow]
    rfl
  wellFormed row hrow := by
    rw [List.eq_of_mem_replicate hrow]
    rfl

/-- The word ends in row 65, the motion stops at the end of the first window. -/
theorem wordMotionTarget_wideWord :
    wordMotionTarget 67 wideWord 0 0 .nextEnd = some (some ⟨63, 0⟩) ∧
      wideWord.wholeBuffer.wordMotion 0 0 .nextEnd = some ⟨65, 0⟩ := by decide +kernel

end RetainedScreen

end Ork3.CopyMode
