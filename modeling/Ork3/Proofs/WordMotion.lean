import Ork3.Model.WordMotion

/-!
# Word motions on windows

A window of the screen gives the target that the whole screen gives, unless the window ends inside
the target word and the test for that does not see it.
-/

namespace Ork3.CopyMode

open Ork3.Library

/-! ### Atoms of rows -/

section
variable {rowIdx col off n : Nat} {last : TextClass} {cell : ScreenTextCell}
  {cells : List ScreenTextCell} {row : ScreenTextRow} {rows rows' : List ScreenTextRow}
  {b : Building} {atom : TextAtom}

def newline : TextAtom := ⟨none, 0, .whitespace⟩

def cellAtom (rowIdx : Nat) (last : TextClass) (cell : ScreenTextCell) (col : Nat) :
    Option TextAtom :=
  match cell.wide with
  | .spacerTail => none
  | .spacerHead => some ⟨some ⟨rowIdx, col⟩, col, last⟩
  | .wide => some ⟨some ⟨rowIdx, col⟩, min (col + 1) 65535,
      textClass (terminalCellText cell.graphemes)⟩
  | .narrow => some ⟨some ⟨rowIdx, col⟩, min col 65535,
      textClass (terminalCellText cell.graphemes)⟩

def cellAtoms (rowIdx : Nat) : TextClass → Nat → List ScreenTextCell → List TextAtom
  | _, _, [] => []
  | last, col, cell :: cells =>
    match cellAtom rowIdx last cell col with
    | none => cellAtoms rowIdx last (col + 1) cells
    | some atom => atom :: cellAtoms rowIdx atom.textClass (col + 1) cells

/-- The atoms of a row that no spacer begins. -/
def rowAtoms (rowIdx : Nat) (row : ScreenTextRow) : List TextAtom :=
  cellAtoms rowIdx .whitespace 0 row.cells ++ if row.softWrapped then [] else [newline]

def rowsAtoms : Nat → List ScreenTextRow → List TextAtom
  | _, [] => []
  | off, row :: rows => rowAtoms off row ++ rowsAtoms (off + 1) rows

lemma addCell_atoms : (b.addCell false true rowIdx (cell, col)).atoms =
    b.atoms ++ (cellAtom rowIdx b.lastClass cell col).toList := by
  obtain ⟨width, graphemes⟩ := cell
  cases width with
  | spacerTail => exact (List.append_nil b.atoms).symm
  | spacerHead => rfl
  | wide => rfl
  | narrow => rfl

lemma cellAtoms_none (h : cellAtom rowIdx last cell col = none) :
    cellAtoms rowIdx last col (cell :: cells) = cellAtoms rowIdx last (col + 1) cells := by
  rw [cellAtoms, h]

lemma cellAtoms_some (h : cellAtom rowIdx last cell col = some atom) :
    cellAtoms rowIdx last col (cell :: cells) =
      atom :: cellAtoms rowIdx atom.textClass (col + 1) cells := by
  rw [cellAtoms, h]

lemma lastClass_eq (h : b.atoms = rest ++ [atom]) : b.lastClass = atom.textClass := by
  unfold Building.lastClass
  rw [h, List.getLast?_concat]
  rfl

lemma foldl_addCell_atoms :
    ((cells.zipIdx col).foldl (Building.addCell false true rowIdx) b).atoms =
      b.atoms ++ cellAtoms rowIdx b.lastClass col cells := by
  induction cells generalizing b col with
  | nil => simp [cellAtoms]
  | cons cell cells ih =>
    rw [List.zipIdx_cons, List.foldl_cons, ih, addCell_atoms]
    cases hatom : cellAtom rowIdx b.lastClass cell col with
    | none =>
      have hsame : (b.addCell false true rowIdx (cell, col)).lastClass = b.lastClass := by
        unfold Building.lastClass
        rw [addCell_atoms, hatom, Option.toList_none, List.append_nil]
      rw [hsame, cellAtoms_none hatom, Option.toList_none, List.append_nil]
    | some atom =>
      have hlast : (b.addCell false true rowIdx (cell, col)).lastClass = atom.textClass :=
        lastClass_eq (by rw [addCell_atoms, hatom, Option.toList_some])
      rw [hlast, cellAtoms_some hatom, Option.toList_some, List.append_assoc,
        List.singleton_append]

/-- A well-formed row begins with the atom of its first column, whatever stands before it. -/
lemma cellAtoms_wellFormed (h : row.wellFormed = true) (rowIdx : Nat) (last : TextClass) :
    ∃ atom rest, atom.point = some ⟨rowIdx, 0⟩ ∧ cellAtoms rowIdx last 0 row.cells = atom :: rest ∧
      cellAtoms rowIdx .whitespace 0 row.cells = atom :: rest := by
  unfold ScreenTextRow.wellFormed at h
  rw [Bool.and_eq_true] at h
  obtain ⟨hspaced, hhead⟩ := h
  cases hcells : row.cells with
  | nil =>
    rw [hcells] at hhead
    cases hhead
  | cons cell cells =>
    rw [hcells] at hspaced hhead
    unfold cellAtoms cellAtom
    cases hwide : cell.wide with
    | spacerTail =>
      rw [List.map_cons, hwide] at hspaced
      cases hspaced
    | spacerHead => simp [hwide] at hhead
    | wide => exact ⟨_, _, rfl, rfl, rfl⟩
    | narrow => exact ⟨_, _, rfl, rfl, rfl⟩

lemma addRow_atoms (hwell : row.wellFormed = true) (hlength : row.cells.length < 65536)
    (hnumber : off + n < 2 ^ 32) :
    (b.addRow false true off (row, n)).atoms = b.atoms ++ rowAtoms (off + n) row := by
  have hcells : ((row.cells.take (2 ^ 16)).zipIdx.foldl
      (Building.addCell false true (min (off + n) (2 ^ 32 - 1))) b).atoms =
      b.atoms ++ cellAtoms (off + n) .whitespace 0 row.cells := by
    obtain ⟨atom, rest, -, hlast, hnone⟩ := cellAtoms_wellFormed hwell (off + n) b.lastClass
    rw [List.take_of_length_le (by omega), Nat.min_eq_left (by omega), foldl_addCell_atoms, hlast,
      hnone]
  unfold Building.addRow rowAtoms
  dsimp only
  by_cases hwrapped : row.softWrapped = true
  · rw [if_pos hwrapped, if_pos hwrapped, hcells, List.append_nil]
  · rw [if_neg hwrapped, if_neg hwrapped, ← List.append_assoc, ← hcells]
    rfl

lemma foldl_addRow_atoms (hwell : ∀ row ∈ rows, row.wellFormed = true ∧ row.cells.length < 65536)
    (hnumber : off + n + rows.length ≤ 2 ^ 32) :
    ((rows.zipIdx n).foldl (Building.addRow false true off) b).atoms =
      b.atoms ++ rowsAtoms (off + n) rows := by
  induction rows generalizing b n with
  | nil => simp [rowsAtoms]
  | cons row rows ih =>
    rw [List.length_cons] at hnumber
    obtain ⟨hrow, hlength⟩ := hwell row List.mem_cons_self
    rw [List.zipIdx_cons, List.foldl_cons, ih (fun row h => hwell row (List.mem_cons_of_mem _ h))
      (by omega), addRow_atoms hrow hlength (by omega), List.append_assoc]
    rfl

lemma atoms_newWords (cols : Nat)
    (hwell : ∀ row ∈ rows, row.wellFormed = true ∧ row.cells.length < 65536)
    (hnumber : off + rows.length ≤ 2 ^ 32) :
    (RetainedTextBuffer.newWords cols rows off).atoms = rowsAtoms off rows := by
  unfold RetainedTextBuffer.newWords RetainedTextBuffer.build
  dsimp only
  rw [List.take_of_length_le (by omega), foldl_addRow_atoms hwell (by omega)]
  rfl

lemma rowsAtoms_append : rowsAtoms off (rows ++ rows') =
    rowsAtoms off rows ++ rowsAtoms (off + rows.length) rows' := by
  induction rows generalizing off with
  | nil => rfl
  | cons row rows ih =>
    rw [List.cons_append, rowsAtoms, rowsAtoms, ih, List.append_assoc, List.length_cons,
      Nat.add_right_comm, Nat.add_assoc]

/-! ### What an atom says -/

/-- An atom without a point is the end of a line, the others belong to their row. -/
def TextAtom.OfRow (atom : TextAtom) (row : Nat) : Prop :=
  (atom.point = none ∧ atom.textClass = .whitespace) ∨ ∃ col, atom.point = some ⟨row, col⟩

lemma ofRow_cellAtoms (h : atom ∈ cellAtoms rowIdx last col cells) : atom.OfRow rowIdx := by
  induction cells generalizing last col with
  | nil => cases h
  | cons cell cells ih =>
    cases hatom : cellAtom rowIdx last cell col with
    | none =>
      rw [cellAtoms_none hatom] at h
      exact ih h
    | some atom' =>
      rw [cellAtoms_some hatom] at h
      rcases List.mem_cons.mp h with rfl | h
      · unfold cellAtom at hatom
        cases hwide : cell.wide <;> rw [hwide] at hatom <;> cases hatom <;> exact .inr ⟨_, rfl⟩
      · exact ih h

lemma ofRow_rowsAtoms (h : atom ∈ rowsAtoms off rows) :
    ∃ row, off ≤ row ∧ row < off + rows.length ∧ atom.OfRow row := by
  induction rows generalizing off with
  | nil => cases h
  | cons row rows ih =>
    rw [rowsAtoms, List.mem_append] at h
    rw [List.length_cons]
    rcases h with h | h
    · refine ⟨off, Nat.le_refl _, by omega, ?_⟩
      rcases List.mem_append.mp h with h | h
      · exact ofRow_cellAtoms h
      · split at h
        · cases h
        · rw [List.mem_singleton.mp h]
          exact .inl ⟨rfl, rfl⟩
    · obtain ⟨r, hle, hlt, hof⟩ := ih h
      exact ⟨r, by omega, by omega, hof⟩

lemma row_of_mem_rowsAtoms (h : atom ∈ rowsAtoms off rows) {point : TerminalTextPoint}
    (hpoint : atom.point = some point) : off ≤ point.row ∧ point.row < off + rows.length := by
  obtain ⟨row, hle, hlt, ⟨hnone, -⟩ | ⟨col, hcol⟩⟩ := ofRow_rowsAtoms h
  · rw [hnone] at hpoint
    cases hpoint
  · rw [hcol] at hpoint
    obtain rfl := Option.some.inj hpoint
    exact ⟨hle, hlt⟩

lemma exists_point (h : atom ∈ rowsAtoms off rows) (hclass : atom.textClass ≠ .whitespace) :
    ∃ point, atom.point = some point := by
  obtain ⟨row, -, -, ⟨-, hblank⟩ | ⟨col, hcol⟩⟩ := ofRow_rowsAtoms h
  · exact absurd hblank hclass
  · exact ⟨_, hcol⟩

end

/-! ### Windows are segments of the whole -/

namespace RetainedScreen

section
variable {screen : RetainedScreen} {s e e' : Nat}

/-- The rows that have a number. -/
def numbered (screen : RetainedScreen) : List ScreenTextRow := screen.rows.take (2 ^ 32)

lemma numbered_wellFormed {row : ScreenTextRow} (h : row ∈ screen.numbered) :
    row.wellFormed = true ∧ row.cells.length < 65536 := by
  have hmem := List.mem_of_mem_take h
  exact ⟨screen.wellFormed row hmem, by rw [screen.length_cells row hmem]; exact screen.cols_lt⟩

lemma length_numbered (screen : RetainedScreen) :
    screen.numbered.length = min (2 ^ 32) screen.totalRows := by
  unfold numbered totalRows
  rw [List.length_take]

lemma screenTextRowsRange_eq (hse : s ≤ e) (he : e ≤ screen.totalRows) :
    screen.screenTextRowsRange s e = (screen.numbered.drop s).take (e - s) := by
  unfold screenTextRowsRange numbered
  dsimp only
  rw [Nat.min_eq_left he, Nat.min_eq_left (Nat.le_trans hse he), Nat.max_eq_left hse]

lemma windowBuffer_atoms (hse : s ≤ e) (he : e ≤ screen.totalRows) (hs : s ≤ 2 ^ 32) :
    (screen.windowBuffer (s, e)).atoms = rowsAtoms s ((screen.numbered.drop s).take (e - s)) := by
  unfold windowBuffer
  dsimp only
  rw [screenTextRowsRange_eq hse he]
  apply atoms_newWords
  · intro row hrow
    exact numbered_wellFormed (List.mem_of_mem_drop (List.mem_of_mem_take hrow))
  · have hlength := length_numbered screen
    rw [List.length_take, List.length_drop]
    omega

lemma wholeBuffer_atoms : screen.wholeBuffer.atoms = rowsAtoms 0 screen.numbered := by
  have hwhole : screen.wholeBuffer = screen.windowBuffer (0, screen.totalRows) := rfl
  rw [hwhole, windowBuffer_atoms (Nat.zero_le _) (Nat.le_refl _) (Nat.zero_le _), List.drop_zero,
    List.take_of_length_le]
  have hlength := length_numbered screen
  omega

/-- The number of atoms in the rows before row `e`. -/
def atomsBefore (screen : RetainedScreen) (e : Nat) : Nat :=
  (screen.windowBuffer (0, e)).atoms.length

lemma before_append (hse : s ≤ e) (he : e ≤ screen.totalRows)
    (hs : s ≤ screen.numbered.length) :
    (screen.windowBuffer (0, e)).atoms =
      (screen.windowBuffer (0, s)).atoms ++ (screen.windowBuffer (s, e)).atoms := by
  have hlength := length_numbered screen
  rw [windowBuffer_atoms (Nat.zero_le _) he (Nat.zero_le _),
    windowBuffer_atoms (Nat.zero_le _) (by omega) (Nat.zero_le _),
    windowBuffer_atoms hse he (by omega), List.drop_zero, Nat.sub_zero, Nat.sub_zero]
  have hsplit : screen.numbered.take e =
      screen.numbered.take s ++ (screen.numbered.drop s).take (e - s) := by
    rw [← List.take_add, Nat.add_sub_cancel' hse]
  rw [hsplit, rowsAtoms_append, List.length_take, Nat.min_eq_left hs, Nat.zero_add]

lemma whole_append (he : e ≤ screen.totalRows) :
    screen.wholeBuffer.atoms = (screen.windowBuffer (0, e)).atoms ++
      rowsAtoms (min e screen.numbered.length) (screen.numbered.drop e) := by
  rw [wholeBuffer_atoms, windowBuffer_atoms (Nat.zero_le _) he (Nat.zero_le _), List.drop_zero,
    Nat.sub_zero]
  conv_lhs => rw [← List.take_append_drop e screen.numbered]
  rw [rowsAtoms_append, List.length_take, Nat.zero_add]

lemma atomsBefore_mono (h : e ≤ e') (he : e' ≤ screen.totalRows) :
    screen.atomsBefore e ≤ screen.atomsBefore e' := by
  unfold atomsBefore
  rw [windowBuffer_atoms (Nat.zero_le _) (by omega) (Nat.zero_le _),
    windowBuffer_atoms (Nat.zero_le _) he (Nat.zero_le _), List.drop_zero, Nat.sub_zero,
    Nat.sub_zero]
  have hsplit : screen.numbered.take e' =
      screen.numbered.take e ++ (screen.numbered.drop e).take (e' - e) := by
    rw [← List.take_add, Nat.add_sub_cancel' h]
  rw [hsplit, rowsAtoms_append, List.length_append]
  exact Nat.le_add_right _ _

end

end RetainedScreen

/-! ### The word that a motion goes to -/

section
variable {atoms rest : List TextAtom} {current first stop stop' last cut k : Nat}
  {textClass : TextClass} {target : TerminalTextPoint}

/-- An atom without a point is blank. -/
def Pointed (atoms : List TextAtom) : Prop :=
  ∀ atom ∈ atoms, atom.textClass ≠ .whitespace → ∃ point, atom.point = some point

/-- The next word behind atom `current` is made of the atoms from `first` to before `stop`. -/
structure WordAhead (atoms : List TextAtom) (current first stop : Nat) (textClass : TextClass) :
    Prop where
  class_ne : textClass ≠ .whitespace
  current_lt : current < first
  first_lt : first < stop
  blank : ∀ k, current < k → k < first → atoms[k]?.any (TextAtom.isOf .whitespace) = true
  word : ∀ k, first ≤ k → k < stop → atoms[k]?.any (TextAtom.isOf textClass) = true
  ends : atoms[stop]?.any (TextAtom.isOf textClass) = false

/-- The word before atom `current` is made of the atoms from `first` to `last`. -/
structure WordBehind (atoms : List TextAtom) (current first last : Nat) (textClass : TextClass) :
    Prop where
  class_ne : textClass ≠ .whitespace
  first_le : first ≤ last
  last_lt : last < current
  blank : ∀ k, last < k → k < current → atoms[k]?.any (TextAtom.isOf .whitespace) = true
  word : ∀ k, first ≤ k → k ≤ last → atoms[k]?.any (TextAtom.isOf textClass) = true
  begins : first = 0 ∨ atoms[first - 1]?.any (TextAtom.isOf textClass) = false

/-- The next word behind atom `current` goes on over the cut before atom `cut`. -/
def CutsWordAhead (atoms : List TextAtom) (current cut : Nat) : Prop :=
  ∃ first textClass, textClass ≠ .whitespace ∧ current < first ∧ first < cut ∧
    (∀ k, current < k → k < first → atoms[k]?.any (TextAtom.isOf .whitespace) = true) ∧
    ∀ k, first ≤ k → k ≤ cut → atoms[k]?.any (TextAtom.isOf textClass) = true

/-- The word before atom `current` goes on over the cut before atom `cut`. -/
def CutsWordBehind (atoms : List TextAtom) (current cut : Nat) : Prop :=
  ∃ last textClass, textClass ≠ .whitespace ∧ last < current ∧ 0 < cut ∧ cut ≤ last ∧
    (∀ k, last < k → k < current → atoms[k]?.any (TextAtom.isOf .whitespace) = true) ∧
    ∀ k, cut - 1 ≤ k → k ≤ last → atoms[k]?.any (TextAtom.isOf textClass) = true

lemma exists_of_any {p : TextAtom → Bool} (h : atoms[k]?.any p = true) :
    ∃ atom, atoms[k]? = some atom ∧ p atom = true := by
  cases hatom : atoms[k]? with
  | none =>
    rw [hatom] at h
    cases h
  | some atom =>
    rw [hatom] at h
    exact ⟨atom, rfl, h⟩

lemma class_eq_of_any {textClass' : TextClass}
    (h : atoms[k]?.any (TextAtom.isOf textClass) = true)
    (h' : atoms[k]?.any (TextAtom.isOf textClass') = true) : textClass = textClass' := by
  obtain ⟨atom, hatom, hclass⟩ := exists_of_any h
  rw [hatom] at h'
  exact (of_decide_eq_true hclass).symm.trans (of_decide_eq_true h')

lemma previousPoint_of_any (hpointed : Pointed atoms) (hclass : textClass ≠ .whitespace)
    (h : atoms[k]?.any (TextAtom.isOf textClass) = true) :
    RetainedTextBuffer.previousPoint atoms k = atoms[k]?.bind (·.point) := by
  obtain ⟨atom, hatom, hof⟩ := exists_of_any h
  obtain ⟨point, hpoint⟩ := hpointed atom (List.mem_of_getElem? hatom) (by
    rw [of_decide_eq_true hof]
    exact hclass)
  unfold RetainedTextBuffer.previousPoint
  rw [hatom, Option.bind_some, Option.bind_some, hpoint]

lemma getElem?_of_any_ne (h : atoms[k]?.any (TextAtom.isOf .whitespace) = false) {atom : TextAtom}
    (hatom : atoms[k]? = some atom) : atom.textClass ≠ .whitespace := by
  intro hblank
  rw [hatom] at h
  exact absurd h (by simp [TextAtom.isOf, hblank])

/-! ### Forward -/

lemma exists_wordAhead_of_some {atom : TextAtom}
    (hatom : atoms[runEnd (TextAtom.isOf .whitespace) atoms (current + 1)]? = some atom) :
    ∃ first stop textClass, WordAhead atoms current first stop textClass := by
  generalize hnext : runEnd (TextAtom.isOf .whitespace) atoms (current + 1) = next at hatom
  have hle : current + 1 ≤ next := hnext ▸ le_runEnd
  refine ⟨next, runEnd (TextAtom.isOf atom.textClass) atoms (next + 1), atom.textClass,
    getElem?_of_any_ne (hnext ▸ any_runEnd) hatom, hle, le_runEnd, ?_, ?_, any_runEnd⟩
  · intro k hk hlt
    exact any_of_lt_runEnd hk (hnext ▸ hlt)
  · intro k hk hlt
    by_cases heq : k = next
    · rw [heq, hatom]
      exact decide_eq_true rfl
    · exact any_of_lt_runEnd (by omega) hlt

lemma exists_wordAhead (h : RetainedTextBuffer.nextWordEnd atoms current = some target) :
    ∃ first stop textClass, WordAhead atoms current first stop textClass := by
  unfold RetainedTextBuffer.nextWordEnd at h
  obtain ⟨atom, hatom, -⟩ := Option.bind_eq_some_iff.mp h
  exact exists_wordAhead_of_some hatom

lemma WordAhead.first_unique (h : WordAhead atoms current first stop textClass) {first' : Nat}
    {textClass' : TextClass} (hne : textClass' ≠ .whitespace) (hlt : current < first')
    (hblank : ∀ k, current < k → k < first' → atoms[k]?.any (TextAtom.isOf .whitespace) = true)
    (hword : atoms[first']?.any (TextAtom.isOf textClass') = true) :
    first' = first ∧ textClass' = textClass := by
  have hfirst := h.word first (Nat.le_refl _) h.first_lt
  have heq : first' = first := by
    rcases Nat.lt_trichotomy first' first with hcase | hcase | hcase
    · exact absurd (class_eq_of_any hword (h.blank first' hlt hcase)) hne
    · exact hcase
    · exact absurd (class_eq_of_any hfirst (hblank first h.current_lt hcase)) h.class_ne
  subst heq
  exact ⟨rfl, class_eq_of_any hword hfirst⟩

lemma any_isOf_ne {textClass' : TextClass} (hne : textClass ≠ textClass')
    (h : atoms[k]?.any (TextAtom.isOf textClass) = true) :
    atoms[k]?.any (TextAtom.isOf textClass') = false := by
  rw [← Bool.not_eq_true]
  intro h'
  exact hne (class_eq_of_any h h')

lemma WordAhead.nextWordEnd_eq (h : WordAhead atoms current first stop textClass)
    (hpointed : Pointed atoms) :
    RetainedTextBuffer.nextWordEnd atoms current = atoms[stop - 1]?.bind (·.point) := by
  have hfirst := h.word first (Nat.le_refl _) h.first_lt
  have hfirst_lt := h.first_lt
  have hnext : runEnd (TextAtom.isOf .whitespace) atoms (current + 1) = first :=
    runEnd_eq h.current_lt h.blank (any_isOf_ne h.class_ne hfirst)
  have hstop : runEnd (TextAtom.isOf textClass) atoms (first + 1) = stop :=
    runEnd_eq h.first_lt (fun k hk => h.word k (by omega)) h.ends
  obtain ⟨atom, hatom, hclass⟩ := exists_of_any hfirst
  unfold RetainedTextBuffer.nextWordEnd
  dsimp only
  rw [hnext, hatom, Option.bind_some, of_decide_eq_true hclass, hstop]
  exact previousPoint_of_any hpointed h.class_ne (h.word _ (by omega) (by omega))

lemma WordAhead.cuts_iff (h : WordAhead atoms current first stop textClass) :
    CutsWordAhead atoms current cut ↔ first < cut ∧ cut < stop := by
  constructor
  · rintro ⟨first', textClass', hne, hlt, hcut, hblank, hword⟩
    obtain ⟨rfl, rfl⟩ := h.first_unique hne hlt hblank (hword first' (Nat.le_refl _) (by omega))
    refine ⟨hcut, ?_⟩
    by_contra hle
    have := hword stop (Nat.le_of_lt h.first_lt) (by omega)
    rw [h.ends] at this
    cases this
  · rintro ⟨hfirst, hstop⟩
    exact ⟨first, textClass, h.class_ne, h.current_lt, hfirst, h.blank,
      fun k hk hlt => h.word k hk (by omega)⟩

lemma WordAhead.append_left (h : WordAhead atoms current first stop textClass)
    (before : List TextAtom) :
    WordAhead (before ++ atoms) (before.length + current) (before.length + first)
      (before.length + stop) textClass := by
  have hget : ∀ k, before.length ≤ k → (before ++ atoms)[k]? = atoms[k - before.length]? :=
    fun k hk => List.getElem?_append_right hk
  refine ⟨h.class_ne, Nat.add_lt_add_left h.current_lt _, Nat.add_lt_add_left h.first_lt _,
    fun k hk hlt => ?_, fun k hk hlt => ?_, ?_⟩
  · rw [hget k (by omega)]
    exact h.blank _ (by omega) (by omega)
  · rw [hget k (by omega)]
    exact h.word _ (by omega) (by omega)
  · rw [hget _ (by omega), Nat.add_sub_cancel_left]
    exact h.ends

lemma nextWordEnd_append_left (before : List TextAtom) (hpointed : Pointed atoms)
    (hwhole : Pointed (before ++ atoms)) :
    RetainedTextBuffer.nextWordEnd (before ++ atoms) (before.length + current) =
      RetainedTextBuffer.nextWordEnd atoms current := by
  cases hatom : atoms[runEnd (TextAtom.isOf .whitespace) atoms (current + 1)]? with
  | none =>
    unfold RetainedTextBuffer.nextWordEnd
    dsimp only
    rw [Nat.add_assoc, runEnd_append_left, List.getElem?_append_right (Nat.le_add_right _ _),
      Nat.add_sub_cancel_left, hatom, Option.bind_none, Option.bind_none]
  | some atom =>
    obtain ⟨first, stop, textClass, hword⟩ := exists_wordAhead_of_some hatom
    have hfirst := hword.first_lt
    rw [(hword.append_left before).nextWordEnd_eq hwhole, hword.nextWordEnd_eq hpointed,
      Nat.add_sub_assoc (by omega), List.getElem?_append_right (Nat.le_add_right _ _),
      Nat.add_sub_cancel_left]

/-- With more atoms behind it the word may go on, if it reached the end of the list. -/
lemma WordAhead.append_right (h : WordAhead atoms current first stop textClass)
    (rest : List TextAtom) :
    ∃ stop', WordAhead (atoms ++ rest) current first stop' textClass ∧ stop ≤ stop' ∧
      (stop < atoms.length → stop' = stop) := by
  have hlt : ∀ k, first ≤ k → k < stop → k < atoms.length := by
    intro k hk hlt
    obtain ⟨atom, hatom, -⟩ := exists_of_any (h.word k hk hlt)
    exact (List.getElem?_eq_some_iff.mp hatom).1
  have hget : ∀ k, k < atoms.length → (atoms ++ rest)[k]? = atoms[k]? :=
    fun k hk => List.getElem?_append_left hk
  have hword : ∀ k, first ≤ k → k < stop →
      (atoms ++ rest)[k]?.any (TextAtom.isOf textClass) = true := by
    intro k hk hks
    rw [hget k (hlt k hk hks)]
    exact h.word k hk hks
  have hfirst_lt := h.first_lt
  refine ⟨runEnd (TextAtom.isOf textClass) (atoms ++ rest) stop,
    ⟨h.class_ne, h.current_lt, Nat.lt_of_lt_of_le h.first_lt le_runEnd, fun k hk hkf => ?_,
      fun k hk hks => ?_, any_runEnd⟩, le_runEnd, fun hstop => ?_⟩
  · rw [hget k (Nat.lt_trans hkf (hlt first (Nat.le_refl _) h.first_lt))]
    exact h.blank k hk hkf
  · by_cases hcase : k < stop
    · exact hword k hk hcase
    · exact any_of_lt_runEnd (by omega) hks
  · apply runEnd_eq (Nat.le_refl _) (fun k hk hks => by omega)
    rw [hget stop hstop]
    exact h.ends

/-! ### Backward -/

lemma exists_wordBehind (h : RetainedTextBuffer.previousWordStart atoms current = some target) :
    ∃ first last textClass, WordBehind atoms current first last textClass := by
  unfold RetainedTextBuffer.previousWordStart at h
  cases current with
  | zero => cases h
  | succ previous =>
    obtain ⟨last, hlast, h⟩ := Option.bind_eq_some_iff.mp h
    obtain ⟨atom, hatom, -⟩ := Option.bind_eq_some_iff.mp h
    obtain ⟨hle, hblank, hstop⟩ := skipBack_spec hlast
    refine ⟨runStart (TextAtom.isOf atom.textClass) atoms last, last, atom.textClass,
      getElem?_of_any_ne hstop hatom, runStart_le, Nat.lt_succ_of_le hle,
      fun k hk hlt => hblank k hk (Nat.le_of_lt_succ hlt), fun k hk hkl => ?_, any_pred_runStart⟩
    by_cases heq : k = last
    · rw [heq, hatom]
      exact decide_eq_true rfl
    · exact any_of_runStart_le hk (by omega)

lemma WordBehind.last_unique (h : WordBehind atoms current first last textClass) {last' : Nat}
    {textClass' : TextClass} (hne : textClass' ≠ .whitespace) (hlt : last' < current)
    (hblank : ∀ k, last' < k → k < current → atoms[k]?.any (TextAtom.isOf .whitespace) = true)
    (hword : atoms[last']?.any (TextAtom.isOf textClass') = true) :
    last' = last ∧ textClass' = textClass := by
  have hlast := h.word last h.first_le (Nat.le_refl _)
  have heq : last' = last := by
    rcases Nat.lt_trichotomy last' last with hcase | hcase | hcase
    · exact absurd (class_eq_of_any hlast (hblank last hcase h.last_lt)) h.class_ne
    · exact hcase
    · exact absurd (class_eq_of_any hword (h.blank last' hcase hlt)) hne
  subst heq
  exact ⟨rfl, class_eq_of_any hword hlast⟩

lemma WordBehind.previousWordStart_eq (h : WordBehind atoms current first last textClass)
    (hpointed : Pointed atoms) :
    RetainedTextBuffer.previousWordStart atoms current = atoms[first]?.bind (·.point) := by
  have hlast := h.word last h.first_le (Nat.le_refl _)
  obtain ⟨atom, hatom, hclass⟩ := exists_of_any hlast
  have hlast_lt := h.last_lt
  unfold RetainedTextBuffer.previousWordStart
  cases current with
  | zero => omega
  | succ previous =>
    have hskip : skipBack (TextAtom.isOf .whitespace) atoms previous = some last :=
      skipBack_eq_some (by omega) (fun k hk hkp => h.blank k hk (by omega))
        (any_isOf_ne h.class_ne hlast)
    have hstart : runStart (TextAtom.isOf textClass) atoms last = first :=
      runStart_eq h.first_le (fun k hk hkl => h.word k hk (by omega)) h.begins
    dsimp only
    rw [hskip, Option.bind_some, hatom, Option.bind_some, of_decide_eq_true hclass, hstart]
    exact previousPoint_of_any hpointed h.class_ne (h.word _ (Nat.le_refl _) h.first_le)

lemma WordBehind.cuts_iff (h : WordBehind atoms current first last textClass) :
    CutsWordBehind atoms current cut ↔ first < cut ∧ cut ≤ last := by
  constructor
  · rintro ⟨last', textClass', hne, hlt, hpos, hcut, hblank, hword⟩
    obtain ⟨rfl, rfl⟩ := h.last_unique hne hlt hblank (hword last' (by omega) (Nat.le_refl _))
    refine ⟨?_, hcut⟩
    by_contra hle
    have hfirst := h.first_le
    rcases h.begins with hbegins | hbegins
    · omega
    · have := hword (first - 1) (by omega) (by omega)
      rw [hbegins] at this
      cases this
  · rintro ⟨hfirst, hlast⟩
    exact ⟨last, textClass, h.class_ne, h.last_lt, by omega, hlast, h.blank,
      fun k hk hkl => h.word k (by omega) hkl⟩

lemma WordBehind.append_right (h : WordBehind atoms current first last textClass)
    (hcurrent : current ≤ atoms.length) (rest : List TextAtom) :
    WordBehind (atoms ++ rest) current first last textClass := by
  have hget : ∀ k, k < atoms.length → (atoms ++ rest)[k]? = atoms[k]? :=
    fun k hk => List.getElem?_append_left hk
  have hfirst := h.first_le
  have hlast := h.last_lt
  refine ⟨h.class_ne, h.first_le, h.last_lt, fun k hk hlt => ?_, fun k hk hlt => ?_, ?_⟩
  · rw [hget k (by omega)]
    exact h.blank k hk hlt
  · rw [hget k (by omega)]
    exact h.word k hk hlt
  · rw [hget (first - 1) (by omega)]
    exact h.begins

/-- With more atoms before it the word may begin earlier, if it reached the begin of the list. -/
lemma WordBehind.append_left (h : WordBehind atoms current first last textClass)
    (before : List TextAtom) :
    ∃ first', WordBehind (before ++ atoms) (before.length + current) first'
      (before.length + last) textClass ∧ first' ≤ before.length + first ∧
      (0 < first → first' = before.length + first) := by
  have hget : ∀ k, before.length ≤ k → (before ++ atoms)[k]? = atoms[k - before.length]? :=
    fun k hk => List.getElem?_append_right hk
  have hfirst := h.first_le
  have hlast := h.last_lt
  refine ⟨runStart (TextAtom.isOf textClass) (before ++ atoms) (before.length + first),
    ⟨h.class_ne, Nat.le_trans runStart_le (by omega), by omega, fun k hk hlt => ?_,
      fun k hk hkl => ?_, any_pred_runStart⟩, runStart_le, fun hpos => ?_⟩
  · rw [hget k (by omega)]
    exact h.blank _ (by omega) (by omega)
  · by_cases hcase : before.length + first ≤ k
    · rw [hget k (by omega)]
      exact h.word _ (by omega) (by omega)
    · exact any_of_runStart_le hk (by omega)
  · refine runStart_eq (Nat.le_refl _) (fun k hk hkl => by omega) (.inr ?_)
    rw [hget _ (by omega), Nat.add_sub_assoc hpos, Nat.add_sub_cancel_left]
    exact h.begins.resolve_left (by omega)

lemma previousPoint_append (hcurrent : current < atoms.length) (rest : List TextAtom) :
    RetainedTextBuffer.previousPoint (atoms ++ rest) current =
      RetainedTextBuffer.previousPoint atoms current := by
  induction current with
  | zero =>
    unfold RetainedTextBuffer.previousPoint
    rw [List.getElem?_append_left hcurrent]
  | succ current ih =>
    unfold RetainedTextBuffer.previousPoint
    dsimp only
    rw [List.getElem?_append_left hcurrent, ih (Nat.lt_of_succ_lt hcurrent)]

lemma previousWordStart_append (hcurrent : current < atoms.length) (rest : List TextAtom) :
    RetainedTextBuffer.previousWordStart (atoms ++ rest) current =
      RetainedTextBuffer.previousWordStart atoms current := by
  unfold RetainedTextBuffer.previousWordStart
  cases current with
  | zero => rfl
  | succ previous =>
    dsimp only
    rw [skipBack_append (Nat.lt_of_succ_lt hcurrent)]
    apply Option.bind_congr
    intro last hlast
    have hle := (skipBack_spec hlast).1
    rw [List.getElem?_append_left (by omega)]
    apply Option.bind_congr
    intro atom hatom
    have hstart : runStart (TextAtom.isOf atom.textClass) atoms last ≤ last := runStart_le
    rw [runStart_append (by omega), previousPoint_append (by omega)]

/-! ### The start of the next word -/

lemma nextWordStart_append_left (before : List TextAtom) :
    RetainedTextBuffer.nextWordStart (before ++ atoms) (before.length + current) =
      RetainedTextBuffer.nextWordStart atoms current := by
  unfold RetainedTextBuffer.nextWordStart RetainedTextBuffer.nextPoint
  rw [List.getElem?_append_right (Nat.le_add_right _ _), Nat.add_sub_cancel_left]
  congr 1
  funext atom
  dsimp only
  split <;> simp only [Nat.add_assoc, runEnd_append_left, List.drop_length_add_append]

lemma nextWordStart_append_right (h : RetainedTextBuffer.nextWordStart atoms current = some target)
    (rest : List TextAtom) :
    RetainedTextBuffer.nextWordStart (atoms ++ rest) current = some target := by
  unfold RetainedTextBuffer.nextWordStart RetainedTextBuffer.nextPoint at h ⊢
  obtain ⟨atom, hatom, h⟩ := Option.bind_eq_some_iff.mp h
  rw [List.getElem?_append_left (List.getElem?_eq_some_iff.mp hatom).1, hatom, Option.bind_some]
  dsimp only at h ⊢
  have hlt : ∀ i, ((atoms.drop (runEnd (TextAtom.isOf .whitespace) atoms i)).findSome?
      (·.point)) = some target → runEnd (TextAtom.isOf .whitespace) atoms i < atoms.length := by
    intro i hi
    by_contra hle
    rw [List.drop_eq_nil_of_le (by omega)] at hi
    cases hi
  have hstep : ∀ i, ((atoms.drop (runEnd (TextAtom.isOf .whitespace) atoms i)).findSome?
      (·.point)) = some target →
      (((atoms ++ rest).drop (runEnd (TextAtom.isOf .whitespace) (atoms ++ rest) i)).findSome?
        (·.point)) = some target := by
    intro i hi
    rw [runEnd_append_of_lt (hlt i hi), List.drop_append_of_le_length (Nat.le_of_lt (hlt i hi)),
      List.findSome?_append, hi]
    rfl
  split
  · next hne =>
    rw [if_pos hne] at h
    have hword : runEnd (TextAtom.isOf atom.textClass) atoms (current + 1) < atoms.length :=
      Nat.lt_of_le_of_lt le_runEnd (hlt _ h)
    rw [runEnd_append_of_lt hword]
    exact hstep _ h
  · next hblank =>
    rw [if_neg hblank] at h
    exact hstep _ h

end

end Ork3.CopyMode
