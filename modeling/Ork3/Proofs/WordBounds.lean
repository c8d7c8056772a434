import Ork3.Library.Columns
import Ork3.Library.Lines
import Ork3.Model.WordBounds

/-!
# What a click selects

The columns of a span are those of its first and its last character. A click falls on a character
with a width, or on a mark at the start of the row.
-/

namespace Ork3.App

open Ork3.Library Ork3.Terminal

/-! ### Columns of a row -/

section
variable (charWidth : Char → ℕ) (row : List Char)

/-- Columns are `u16` numbers and saturate. -/
def column (k : ℕ) : ℕ := min (columnOf charWidth row k) 65535

/-- A character with a width begins in the column. -/
def IsFirstColumn (col : ℕ) : Prop :=
  ∃ k ch, row[k]? = some ch ∧ 0 < charWidth ch ∧ col = column charWidth row k

/-- A character with a width ends in the column. -/
def IsLastColumn (col : ℕ) : Prop :=
  ∃ k ch, row[k]? = some ch ∧ 0 < charWidth ch ∧ col = column charWidth row (k + 1) - 1

end

section
variable {charWidth : Char → ℕ} {row : List Char} {cells : List TextCell} {p : Char → Bool}
  {k i a b col : ℕ} {ch : Char}

lemma column_mono (h : a ≤ b) : column charWidth row a ≤ column charWidth row b :=
  min_le_min_right 65535 (columnOf_mono charWidth row h)

lemma getElem?_textCellsFrom (offset : ℕ) :
    (textCellsFrom charWidth (min offset 65535) row)[k]? = row[k]?.map fun ch =>
      ⟨ch, if charWidth ch = 0 then min (offset + columnOf charWidth row k) 65535 - 1
        else min (offset + columnOf charWidth row k) 65535,
        min (offset + columnOf charWidth row (k + 1)) 65535 - 1⟩ := by
  induction row generalizing offset k with
  | nil => rfl
  | cons d row ih =>
    have hnext : (if 0 < charWidth d then addSaturating (min offset 65535) (charWidth d)
        else min offset 65535) = min (offset + charWidth d) 65535 := by
      unfold addSaturating
      by_cases hpos : 0 < charWidth d
      · rw [if_pos hpos]
        omega
      · rw [if_neg hpos]
        omega
    rw [textCellsFrom, hnext]
    cases k with
    | zero =>
      rw [List.getElem?_cons_zero, List.getElem?_cons_zero, Option.map_some, columnOf_cons_succ,
        columnOf_zero, columnOf_zero, Nat.add_zero, Nat.add_zero]
    | succ k =>
      rw [List.getElem?_cons_succ, List.getElem?_cons_succ, ih, columnOf_cons_succ,
        columnOf_cons_succ, Nat.add_assoc, Nat.add_assoc]

/-- The cell of a character: a mark without width takes the column before it. -/
lemma getElem?_textCells : (textCells charWidth row)[k]? = row[k]?.map fun ch =>
    ⟨ch, if charWidth ch = 0 then column charWidth row k - 1 else column charWidth row k,
      column charWidth row (k + 1) - 1⟩ := by
  have h := @getElem?_textCellsFrom charWidth row k 0
  rw [Nat.zero_min, Nat.zero_add, Nat.zero_add] at h
  exact h

lemma length_textCells : (textCells charWidth row).length = row.length := by
  have h : ∀ offset, (textCellsFrom charWidth offset row).length = row.length := by
    induction row with
    | nil => exact fun _ => rfl
    | cons d row ih =>
      intro offset
      rw [textCellsFrom, List.length_cons, List.length_cons, ih]
  exact h 0

lemma map_ch_textCells : (textCells charWidth row).map TextCell.ch = row := by
  have h : ∀ offset, (textCellsFrom charWidth offset row).map TextCell.ch = row := by
    induction row with
    | nil => exact fun _ => rfl
    | cons d row ih =>
      intro offset
      rw [textCellsFrom, List.map_cons, ih]
  exact h 0

lemma cellIs_textCells : cellIs (textCells charWidth row) p k = row[k]?.any p := by
  rw [cellIs, getElem?_textCells]
  cases row[k]? <;> rfl

lemma cellIs_eq_true : cellIs cells p k = true ↔ ∃ cell, cells[k]? = some cell ∧ p cell.ch = true := by
  rw [cellIs]
  cases cells[k]? with
  | none => simp
  | some cell => simp

lemma covers_iff (hch : row[k]? = some ch) {cell : TextCell}
    (hcell : (textCells charWidth row)[k]? = some cell) :
    (decide (cell.startCol ≤ col) && decide (col ≤ cell.endCol)) = true ↔
      (if charWidth ch = 0 then column charWidth row k - 1 else column charWidth row k) ≤ col ∧
        col ≤ column charWidth row (k + 1) - 1 := by
  rw [getElem?_textCells, hch, Option.map_some] at hcell
  rw [← Option.some.inj hcell, Bool.and_eq_true, decide_eq_true_eq, decide_eq_true_eq]

/-- The clicked cell covers the column and no cell before it does. -/
lemma clicked_covers (h : cellIndexAtColumn (textCells charWidth row) col = some i) :
    (∃ ch, row[i]? = some ch ∧
      (if charWidth ch = 0 then column charWidth row i - 1 else column charWidth row i) ≤ col ∧
      col ≤ column charWidth row (i + 1) - 1) ∧
    ∀ j < i, ∀ ch, row[j]? = some ch →
      ¬ ((if charWidth ch = 0 then column charWidth row j - 1 else column charWidth row j) ≤ col ∧
        col ≤ column charWidth row (j + 1) - 1) := by
  obtain ⟨hi, hcover, hfirst⟩ := List.findIdx?_eq_some_iff_getElem.mp h
  have hlength : i < row.length := by rwa [length_textCells] at hi
  constructor
  · have hch := List.getElem?_eq_getElem hlength
    exact ⟨row[i], hch, (covers_iff hch (List.getElem?_eq_getElem hi)).mp hcover⟩
  · intro j hj ch hch hcovers
    exact hfirst j hj ((covers_iff hch (List.getElem?_eq_getElem (hj.trans hi))).mpr hcovers)

/-- The clicked character has a width, or is a mark at the start of the row. -/
lemma clicked_cases (h : cellIndexAtColumn (textCells charWidth row) col = some i) :
    ∃ ch, row[i]? = some ch ∧ columnOf charWidth row i ≤ col ∧
      col ≤ column charWidth row (i + 1) - 1 ∧ columnOf charWidth row i < 65535 ∧
      (0 < charWidth ch ∨ (i = 0 ∧ charWidth ch = 0)) := by
  obtain ⟨⟨ch, hch, hstart, hstop⟩, hbefore⟩ := clicked_covers h
  have hsucc := columnOf_succ charWidth hch
  have hcol : column charWidth row i = min (columnOf charWidth row i) 65535 := rfl
  have hcolsucc : column charWidth row (i + 1) = min (columnOf charWidth row (i + 1)) 65535 := rfl
  refine ⟨ch, hch, ?_⟩
  by_cases hpos : 0 < charWidth ch
  · rw [if_neg (by omega)] at hstart
    exact ⟨by omega, hstop, by omega, Or.inl hpos⟩
  · rw [if_pos (by omega)] at hstart
    by_cases hzero : columnOf charWidth row i = 0
    · -- the first mark of the row covers the column as well
      have hi : i = 0 := by
        by_contra hne
        have hlength := (List.getElem?_eq_some_iff.mp hch).1
        have hfirst : row[0]? = some row[0] := List.getElem?_eq_getElem (by omega)
        have hmark := width_eq_zero_of_columnOf hzero (Nat.pos_of_ne_zero hne) hfirst
        apply hbefore 0 (Nat.pos_of_ne_zero hne) _ hfirst
        rw [if_pos hmark, column, columnOf_zero]
        omega
      exact ⟨by omega, hstop, by omega, Or.inr ⟨hi, by omega⟩⟩
    · -- the character that reaches the column comes before the mark
      exfalso
      have hm : 0 < column charWidth row i := by omega
      obtain ⟨p, base, hp, hbase, hwide, hlow, hhigh⟩ :=
        exists_crossing hm (min_le_left (columnOf charWidth row i) 65535)
      apply hbefore p hp base hbase
      have hcolp : column charWidth row p = min (columnOf charWidth row p) 65535 := rfl
      have hcolp' : column charWidth row (p + 1) = min (columnOf charWidth row (p + 1)) 65535 := rfl
      rw [if_neg (by omega)]
      omega

/-! ### First and last columns -/

lemma isFirstColumn_of_width (hch : row[a]? = some ch) (hpos : 0 < charWidth ch) :
    IsFirstColumn charWidth row (column charWidth row a) :=
  ⟨a, ch, hch, hpos, rfl⟩

/-- A mark begins where its base does exactly when the base is one column wide. -/
lemma isFirstColumn_mark_iff {base : Char} {q : ℕ} (hbase : row[q]? = some base)
    (hwide : 0 < charWidth base) (hcol : columnOf charWidth row (q + 1) = columnOf charWidth row a)
    (hlow : columnOf charWidth row a < 65535) :
    IsFirstColumn charWidth row (column charWidth row a - 1) ↔ charWidth base = 1 := by
  have hsucc := columnOf_succ charWidth hbase
  have hcola : column charWidth row a = min (columnOf charWidth row a) 65535 := rfl
  constructor
  · rintro ⟨k, ch, hch, hpos, hk⟩
    have hcolk : column charWidth row k = min (columnOf charWidth row k) 65535 := rfl
    have hck : columnOf charWidth row k + 1 = columnOf charWidth row a := by omega
    rcases lt_trichotomy k q with hkq | rfl | hqk
    · have hle := columnOf_add_le charWidth hch hkq
      omega
    · omega
    · have hle := columnOf_mono charWidth row (show q + 1 ≤ k from hqk)
      omega
  · intro hone
    refine ⟨q, base, hbase, hwide, ?_⟩
    have hcolq : column charWidth row q = min (columnOf charWidth row q) 65535 := rfl
    omega

lemma isFirstColumn_zero_iff :
    IsFirstColumn charWidth row 0 ↔ 0 < columnOf charWidth row row.length := by
  constructor
  · rintro ⟨k, ch, hch, hpos, -⟩
    have hle := columnOf_add_le charWidth hch (List.getElem?_eq_some_iff.mp hch).1
    omega
  · intro h
    obtain ⟨k, ch, -, hch, hpos, hlow, -⟩ := exists_crossing Nat.one_pos h
    refine ⟨k, ch, hch, hpos, ?_⟩
    have hcolk : column charWidth row k = min (columnOf charWidth row k) 65535 := rfl
    omega

lemma isLastColumn_of_pos (h : 0 < columnOf charWidth row b) :
    IsLastColumn charWidth row (column charWidth row b - 1) := by
  obtain ⟨k, ch, -, hch, hpos, hcol, -⟩ := exists_base h
  refine ⟨k, ch, hch, hpos, ?_⟩
  rw [column, column, hcol]

/-- The first character with a width takes one column. -/
def FirstIsNarrow (charWidth : Char → ℕ) (row : List Char) : Prop :=
  ∃ k ch, row[k]? = some ch ∧ charWidth ch = 1 ∧ columnOf charWidth row k = 0

lemma isLastColumn_zero_iff : IsLastColumn charWidth row 0 ↔ FirstIsNarrow charWidth row := by
  constructor
  · rintro ⟨k, ch, hch, hpos, hk⟩
    have hsucc := columnOf_succ charWidth hch
    have hcolk : column charWidth row (k + 1) = min (columnOf charWidth row (k + 1)) 65535 := rfl
    exact ⟨k, ch, hch, by omega, by omega⟩
  · rintro ⟨k, ch, hch, hone, hzero⟩
    refine ⟨k, ch, hch, by omega, ?_⟩
    rw [column, columnOf_succ charWidth hch, hone, hzero]
    rfl

/-- The columns contain the clicked one, begin with a character, end with a character and lie in the
row. -/
structure AlignedBounds (charWidth : Char → ℕ) (row : List Char) (col : ℕ) (bounds : ℕ × ℕ) :
    Prop where
  contains : bounds.1 ≤ col ∧ col ≤ bounds.2
  first : IsFirstColumn charWidth row bounds.1
  last : IsLastColumn charWidth row bounds.2
  withinRow : bounds.2 ≤ column charWidth row row.length - 1

/-- The first column of a span. -/
def spanStart (charWidth : Char → ℕ) (row : List Char) (start : ℕ) : ℕ :=
  if (row[start]?.any fun ch => charWidth ch = 0) = true then column charWidth row start - 1
  else column charWidth row start

lemma columns_textCells {span : CellSpan} {bounds : ℕ × ℕ}
    (h : span.columns (textCells charWidth row) = some bounds) :
    bounds = (spanStart charWidth row span.start, column charWidth row (span.stop + 1) - 1) ∧
      span.stop < row.length := by
  obtain ⟨first, hfirst, h⟩ := Option.bind_eq_some_iff.mp h
  obtain ⟨last, hlast, h⟩ := Option.bind_eq_some_iff.mp h
  rw [getElem?_textCells] at hfirst hlast
  obtain ⟨ch, hch, rfl⟩ := Option.map_eq_some_iff.mp hfirst
  obtain ⟨ch', hch', rfl⟩ := Option.map_eq_some_iff.mp hlast
  rw [← Option.some.inj h]
  refine ⟨?_, (List.getElem?_eq_some_iff.mp hch').1⟩
  rw [spanStart, hch, Option.any_some]
  by_cases hzero : charWidth ch = 0
  · simp [hzero]
  · simp [hzero]

lemma spanStart_le : spanStart charWidth row a ≤ columnOf charWidth row a := by
  have hcol : column charWidth row a = min (columnOf charWidth row a) 65535 := rfl
  unfold spanStart
  by_cases hzero : (row[a]?.any fun ch => charWidth ch = 0) = true
  · rw [if_pos hzero]
    omega
  · rw [if_neg hzero]
    omega

/-- Only the ends of a span around the click have to be looked at. -/
lemma alignedBounds_iff (h : cellIndexAtColumn (textCells charWidth row) col = some i)
    (ha : a ≤ i) (hb : i ≤ b) (hlength : b < row.length) :
    AlignedBounds charWidth row col
        (spanStart charWidth row a, column charWidth row (b + 1) - 1) ↔
      IsFirstColumn charWidth row (spanStart charWidth row a) ∧
        IsLastColumn charWidth row (column charWidth row (b + 1) - 1) := by
  refine ⟨fun h => ⟨h.first, h.last⟩, fun hends => ⟨⟨?_, ?_⟩, hends.1, hends.2, ?_⟩⟩
  · obtain ⟨ch, -, hcol, -⟩ := clicked_cases h
    exact spanStart_le.trans ((columnOf_mono charWidth row ha).trans hcol)
  · obtain ⟨ch, -, -, hcol, -⟩ := clicked_cases h
    exact hcol.trans (Nat.sub_le_sub_right (column_mono (Nat.succ_le_succ hb)) 1)
  · exact Nat.sub_le_sub_right (column_mono hlength) 1

/-- A span that begins with a character with a width is aligned. -/
lemma alignedBounds_of_width (h : cellIndexAtColumn (textCells charWidth row) col = some i)
    (ha : a ≤ i) (hb : i ≤ b) (hlength : b < row.length) (hch : row[a]? = some ch)
    (hpos : 0 < charWidth ch) : AlignedBounds charWidth row col
      (spanStart charWidth row a, column charWidth row (b + 1) - 1) := by
  rw [alignedBounds_iff h ha hb hlength]
  constructor
  · rw [spanStart, hch, Option.any_some, if_neg (by simpa using hpos.ne')]
    exact isFirstColumn_of_width hch hpos
  · apply isLastColumn_of_pos
    have hle := columnOf_add_le charWidth hch (by omega : a < b + 1)
    omega

/-- A span behind a character of one column is aligned. -/
lemma alignedBounds_of_narrow (h : cellIndexAtColumn (textCells charWidth row) col = some i)
    (ha : a + 1 ≤ i) (hb : i ≤ b) (hlength : b < row.length) (hch : row[a]? = some ch)
    (hone : charWidth ch = 1) : AlignedBounds charWidth row col
      (spanStart charWidth row (a + 1), column charWidth row (b + 1) - 1) := by
  obtain ⟨clicked, -, -, -, hlow, -⟩ := clicked_cases h
  have hstart : a + 1 < row.length := by omega
  have hnext : row[a + 1]? = some row[a + 1] := List.getElem?_eq_getElem hstart
  by_cases hpos : 0 < charWidth row[a + 1]
  · exact alignedBounds_of_width h ha hb hlength hnext hpos
  · rw [alignedBounds_iff h ha hb hlength]
    have hmono := columnOf_mono charWidth row ha
    constructor
    · rw [spanStart, hnext, Option.any_some, if_pos (by simpa using hpos)]
      exact (isFirstColumn_mark_iff hch (by omega) rfl (by omega)).mpr hone
    · apply isLastColumn_of_pos
      have hle := columnOf_add_le charWidth hch (by omega : a < b + 1)
      omega

/-! ### Growing and trimming spans -/

lemma spanEnd_spec (stops : Char → Bool) {stop : ℕ} (hlength : stop < cells.length) :
    spanEnd cells stops stop < cells.length ∧
      (∀ k, stop < k → k ≤ spanEnd cells stops stop → cellIs cells stops k = false) ∧
      (spanEnd cells stops stop + 1 < cells.length →
        cellIs cells stops (spanEnd cells stops stop + 1) = true) := by
  fun_induction spanEnd cells stops stop with
  | case1 stop hgrow ih =>
    obtain ⟨hlt, hinside, hstops⟩ := ih hgrow.1
    refine ⟨hlt, ?_, hstops⟩
    intro k hk hle
    by_cases heq : k = stop + 1
    · rw [heq]
      exact hgrow.2
    · exact hinside k (by omega) hle
  | case2 stop hstop =>
    refine ⟨hlength, fun k hk hle => absurd hle (by omega), ?_⟩
    intro hlt
    by_contra hfalse
    exact hstop ⟨hlt, Bool.eq_false_of_not_eq_true hfalse⟩

lemma trimEnd_spec {trims : ℕ → Bool} {start stop : ℕ} (h : trimEnd trims start stop = some b) :
    b ≤ stop ∧ (∀ k, b < k → k ≤ stop → trims k = true) ∧ (start ≤ b → trims b = false) := by
  induction stop with
  | zero =>
    rw [trimEnd] at h
    by_cases htrim : start ≤ 0 ∧ trims 0 = true
    · rw [if_pos htrim] at h
      cases h
    · rw [if_neg htrim] at h
      obtain rfl := Option.some.inj h
      refine ⟨le_rfl, fun k hk hle => absurd hle (by omega), fun hle => ?_⟩
      by_contra hne
      exact htrim ⟨hle, Bool.eq_true_of_not_eq_false hne⟩
  | succ stop ih =>
    rw [trimEnd] at h
    by_cases htrim : start ≤ stop + 1 ∧ trims (stop + 1) = true
    · rw [if_pos htrim] at h
      obtain ⟨hle, htrimmed, hkept⟩ := ih h
      refine ⟨by omega, ?_, hkept⟩
      intro k hk hle
      by_cases heq : k = stop + 1
      · rw [heq]
        exact htrim.2
      · exact htrimmed k hk (by omega)
    · rw [if_neg htrim] at h
      obtain rfl := Option.some.inj h
      refine ⟨le_rfl, fun k hk hle => absurd hle (by omega), fun hle => ?_⟩
      by_contra hne
      exact htrim ⟨hle, Bool.eq_true_of_not_eq_false hne⟩

lemma trimmedSpan_spec {trims : ℕ → Bool} {start stop : ℕ} {span : CellSpan}
    (h : trimmedSpan trims start stop = some span) :
    span.start = start ∧ start ≤ span.stop ∧ span.stop ≤ stop ∧
      (∀ k, span.stop < k → k ≤ stop → trims k = true) ∧ trims span.stop = false := by
  obtain ⟨b, htrim, hspan⟩ := Option.bind_eq_some_iff.mp h
  obtain ⟨hle, htrimmed, hkept⟩ := trimEnd_spec htrim
  by_cases hstart : start ≤ b
  · rw [if_pos hstart] at hspan
    rw [← Option.some.inj hspan]
    exact ⟨rfl, hstart, hle, htrimmed, hkept hstart⟩
  · rw [if_neg hstart] at hspan
    cases hspan

lemma trimStart_spec (cells : List TextCell) (start stop : ℕ) : start ≤ trimStart cells start stop ∧
    ∀ k, start ≤ k → k < trimStart cells start stop →
      cellIs cells isLeadingTokenWrapper k = true := by
  fun_induction trimStart cells start stop with
  | case1 start htrim ih =>
    obtain ⟨hle, htrimmed⟩ := ih
    refine ⟨by omega, ?_⟩
    intro k hk hlt
    by_cases heq : k = start
    · rw [heq]
      exact htrim.2
    · exact htrimmed k (by omega) hlt
  | case2 start hstop => exact ⟨le_rfl, fun k hk hlt => absurd hk (by omega)⟩

lemma tokenStart_spec (cells : List TextCell) (start : ℕ) : tokenStart cells start ≤ start ∧
    (∀ k, tokenStart cells start ≤ k → k < start → cellIs cells isWordSeparator k = false) ∧
    (0 < tokenStart cells start →
      cellIs cells isWordSeparator (tokenStart cells start - 1) = true) := by
  induction start with
  | zero => exact ⟨le_rfl, fun k hk hlt => absurd hlt (by omega), fun h => absurd h (lt_irrefl 0)⟩
  | succ start ih =>
    rw [tokenStart]
    by_cases hsep : cellIs cells isWordSeparator start = true
    · rw [if_pos hsep]
      exact ⟨le_rfl, fun k hk hlt => absurd hlt (by omega), fun _ => hsep⟩
    · rw [if_neg hsep]
      obtain ⟨hle, hinside, hbefore⟩ := ih
      refine ⟨by omega, ?_, hbefore⟩
      intro k hk hlt
      by_cases heq : k = start
      · rw [heq]
        exact Bool.eq_false_of_not_eq_true hsep
      · exact hinside k hk (by omega)

/-! ### The three kinds of spans -/

/-- A token is the run of characters between separators without the wrappers at its ends. -/
structure TokenSpan (cells : List TextCell) (i : ℕ) (span : CellSpan) (first last : ℕ) : Prop where
  first_le : first ≤ span.start
  start_le : span.start ≤ i
  le_stop : i ≤ span.stop
  stop_le : span.stop ≤ last
  last_lt : last < cells.length
  run : ∀ k, first ≤ k → k ≤ last → cellIs cells isWordSeparator k = false
  before : 0 < first → cellIs cells isWordSeparator (first - 1) = true
  behind : last + 1 < cells.length → cellIs cells isWordSeparator (last + 1) = true
  leading : ∀ k, first ≤ k → k < span.start → cellIs cells isLeadingTokenWrapper k = true
  trailing : ∀ k, span.stop < k → k ≤ last →
    cellIs cells isTrailingTokenWrapper k = true ∨ cellIs cells (· = '$') k = true

lemma tokenSpanAtColumn_spec {span : CellSpan} (hi : i < cells.length)
    (h : tokenSpanAtColumn cells i = some span) :
    TokenSpan cells i span (tokenStart cells i) (spanEnd cells isWordSeparator i) := by
  unfold tokenSpanAtColumn at h
  by_cases hsep : cellIs cells isWordSeparator i = true
  · rw [if_pos hsep] at h
    cases h
  · rw [if_neg hsep] at h
    obtain ⟨htrim, hcontains⟩ := Option.filter_eq_some_iff.mp h
    rw [CellSpan.contains, Bool.and_eq_true, decide_eq_true_eq, decide_eq_true_eq] at hcontains
    obtain ⟨hfirst, hleft, hbefore⟩ := tokenStart_spec cells i
    obtain ⟨hlast, hright, hbehind⟩ := spanEnd_spec isWordSeparator hi
    unfold trimTokenEdges at htrim
    dsimp only at htrim
    have hdollar : ∃ stop ≤ spanEnd cells isWordSeparator i,
        (∀ k, stop < k → k ≤ spanEnd cells isWordSeparator i → cellIs cells (· = '$') k = true) ∧
        trimmedSpan (cellIs cells isTrailingTokenWrapper)
          (trimStart cells (tokenStart cells i) (spanEnd cells isWordSeparator i)) stop =
            some span := by
      by_cases hlast : trimStart cells (tokenStart cells i) (spanEnd cells isWordSeparator i) <
          spanEnd cells isWordSeparator i ∧
          cellIs cells (· = '$') (spanEnd cells isWordSeparator i) = true ∧
          cellIs cells isTrailingTokenWrapper (spanEnd cells isWordSeparator i - 1) = true
      · rw [if_pos hlast] at htrim
        refine ⟨_, by omega, ?_, htrim⟩
        intro k hk hkle
        have hkeq : k = spanEnd cells isWordSeparator i := by omega
        rw [hkeq]
        exact hlast.2.1
      · rw [if_neg hlast] at htrim
        exact ⟨_, le_rfl, fun k hk hkle => absurd hkle (by omega), htrim⟩
    obtain ⟨stop, hstop, hsign, htrim⟩ := hdollar
    obtain ⟨hstart, -, hle, htrimmed, -⟩ := trimmedSpan_spec htrim
    obtain ⟨hstartle, hleading⟩ := trimStart_spec cells (tokenStart cells i)
      (spanEnd cells isWordSeparator i)
    refine ⟨by omega, hcontains.1, hcontains.2, by omega, hlast, ?_, hbefore, hbehind, ?_, ?_⟩
    · intro k hk hkle
      rcases lt_trichotomy k i with hlt | rfl | hgt
      · exact hleft k hk hlt
      · exact Bool.eq_false_of_not_eq_true hsep
      · exact hright k hgt hkle
    · intro k hk hlt
      exact hleading k hk (by omega)
    · intro k hk hkle
      by_cases hks : k ≤ stop
      · exact Or.inl (htrimmed k hk hks)
      · exact Or.inr (hsign k (by omega) hkle)

/-- A quoted path lies behind its quote. -/
lemma quotedFrom_spec {quote : Char} {span : CellSpan} {idx : ℕ} {start : Option ℕ}
    {rest : List TextCell} (hrest : rest = cells.drop idx)
    (hstart : ∀ opened ∈ start, opened < idx ∧ cellIs cells (· = quote) opened = true)
    (h : quotedFrom cells i quote idx start rest = some span) :
    ∃ opened, span.start = opened + 1 ∧ cellIs cells (· = quote) opened = true ∧ opened < i ∧
      i ≤ span.stop ∧ span.stop < cells.length := by
  induction rest generalizing idx start with
  | nil => cases h
  | cons cell rest ih =>
    have hcell : cells[idx]? = some cell := by
      rw [← List.head?_drop, ← hrest]
      rfl
    have htail : rest = cells.drop (idx + 1) := by
      rw [← List.tail_drop, ← hrest]
      rfl
    have hidx := (List.getElem?_eq_some_iff.mp hcell).1
    unfold quotedFrom at h
    by_cases hskip : cell.ch ≠ quote ∨ isEscaped cells idx = true
    · rw [if_pos hskip] at h
      exact ih htail (fun opened ho => ⟨by have := (hstart opened ho).1; omega,
        (hstart opened ho).2⟩) h
    · rw [if_neg hskip] at h
      cases start with
      | none =>
        refine ih htail ?_ h
        intro opened ho
        obtain rfl := Option.some.inj ho
        refine ⟨by omega, ?_⟩
        rw [cellIs_eq_true]
        push Not at hskip
        exact ⟨cell, hcell, by simp [hskip.1]⟩
      | some opened =>
        dsimp only at h
        obtain ⟨hlt, hquote⟩ := hstart opened rfl
        by_cases hfound : opened < i ∧ i < idx ∧
            ((cells.take idx).drop (opened + 1)).any (fun cell => cell.ch = '/') = true
        · rw [if_pos hfound] at h
          rw [← Option.some.inj h]
          exact ⟨opened, rfl, hquote, hfound.1, by dsimp only; omega, by dsimp only; omega⟩
        · rw [if_neg hfound] at h
          have hnone : ∀ other ∈ (none : Option ℕ),
              other < idx + 1 ∧ cellIs cells (· = quote) other = true := fun other ho => nomatch ho
          exact ih htail hnone h

lemma quotedPathSpanAtColumn_spec {span : CellSpan}
    (h : quotedPathSpanAtColumn cells i = some span) :
    ∃ quote ∈ pathQuotes, ∃ opened, span.start = opened + 1 ∧
      cellIs cells (· = quote) opened = true ∧ opened < i ∧ i ≤ span.stop ∧
      span.stop < cells.length := by
  unfold quotedPathSpanAtColumn at h
  by_cases hclicked : cellIs cells (· ∈ pathQuotes) i = true
  · rw [if_pos hclicked] at h
    cases h
  · rw [if_neg hclicked] at h
    obtain ⟨before, quote, after, hsplit, hspan, -⟩ := List.findSome?_eq_some_iff.mp h
    refine ⟨quote, by rw [hsplit]; simp, ?_⟩
    have hnone : ∀ opened ∈ (none : Option ℕ),
        opened < 0 ∧ cellIs cells (· = quote) opened = true := fun opened ho => nomatch ho
    exact quotedFrom_spec rfl hnone hspan

/-! ### URLs -/

/-- A URL begins with its scheme, has no blanks, and its last character is not trimmed. -/
structure UrlSpan (cells : List TextCell) (span : CellSpan) : Prop where
  scheme : ∃ scheme ∈ [httpScheme, httpsScheme], startsWithChars cells span.start scheme = true ∧
    span.start + scheme.length ≤ span.stop + 1
  start_le : span.start ≤ span.stop
  stop_lt : span.stop < cells.length
  nonblank : ∀ k, span.start ≤ k → k ≤ span.stop → cellIs cells isWhitespace k = false
  kept : shouldTrimTrailingUrlCell cells span.start span.stop = false

lemma startsUrl_iff {start : ℕ} : startsUrl cells start = true ↔
    ∃ scheme ∈ [httpScheme, httpsScheme], startsWithChars cells start scheme = true := by
  simp [startsUrl]

lemma scheme_spec : ∀ scheme ∈ [httpScheme, httpsScheme],
    scheme.head? = some 'h' ∧ (∀ c ∈ scheme, isWhitespace c = false) ∧
      scheme.getLast? = some '/' := by
  intro scheme hscheme
  have hblank : [httpScheme, httpsScheme].all
      (fun scheme => scheme.all fun c => !isWhitespace c) = true := by decide
  have hwords := List.all_eq_true.mp (List.all_eq_true.mp hblank scheme hscheme)
  have hends : ∀ scheme ∈ [httpScheme, httpsScheme],
      scheme.head? = some 'h' ∧ scheme.getLast? = some '/' := by decide
  refine ⟨(hends scheme hscheme).1, fun c hc => ?_, (hends scheme hscheme).2⟩
  simpa using hwords c hc

/-- The characters of a text a cell starts with. -/
lemma cell_of_startsWithChars {text : List Char} {start n : ℕ}
    (h : startsWithChars cells start text = true) (hn : n < text.length) :
    ∃ cell, cells[start + n]? = some cell ∧ cell.ch = text[n] := by
  obtain ⟨more, hmore⟩ := List.isPrefixOf_iff_prefix.mp h
  have hget : ((cells.drop start).map TextCell.ch)[n]? = some text[n] := by
    rw [← hmore, List.getElem?_append_left hn, List.getElem?_eq_getElem hn]
  rw [List.getElem?_map, List.getElem?_drop] at hget
  obtain ⟨cell, hcell, hch⟩ := Option.map_eq_some_iff.mp hget
  exact ⟨cell, hcell, hch⟩

lemma trimUrlEdges_spec {start : ℕ} {span : CellSpan} (hstarts : startsUrl cells start = true)
    (h : trimUrlEdges cells ⟨start, spanEnd cells isWhitespace start⟩ = some span) :
    UrlSpan cells span := by
  obtain ⟨scheme, hscheme, hpre⟩ := startsUrl_iff.mp hstarts
  obtain ⟨hhead, hwords, hlast⟩ := scheme_spec scheme hscheme
  have hpos : 0 < scheme.length := by
    cases scheme with
    | nil => cases hhead
    | cons c scheme => exact Nat.succ_pos _
  obtain ⟨first, hfirst, hletter⟩ := cell_of_startsWithChars hpre hpos
  rw [Nat.add_zero] at hfirst
  have hstart := (List.getElem?_eq_some_iff.mp hfirst).1
  obtain ⟨hlt, hinside, hbehind⟩ := spanEnd_spec isWhitespace hstart
  -- the scheme is part of the run
  have hlong : start + scheme.length ≤ spanEnd cells isWhitespace start + 1 := by
    by_contra hshort
    obtain ⟨n, hn⟩ := Nat.exists_eq_add_of_le
      ((le_spanEnd cells isWhitespace start).trans (Nat.le_succ _))
    obtain ⟨cell, hcell, hch⟩ := cell_of_startsWithChars hpre (by omega : n < scheme.length)
    rw [← hn] at hcell
    have hblank := hbehind (List.getElem?_eq_some_iff.mp hcell).1
    obtain ⟨cell', hcell', hws⟩ := cellIs_eq_true.mp hblank
    obtain rfl := Option.some.inj (hcell.symm.trans hcell')
    rw [hch, hwords _ (List.getElem_mem _)] at hws
    cases hws
  obtain ⟨hspan, hle, hstop, htrimmed, hkept⟩ := trimmedSpan_spec h
  dsimp only at hspan hle hstop htrimmed hkept
  -- the slash at its end is not trimmed
  have hschemeStop : start + scheme.length ≤ span.stop + 1 := by
    by_contra hshort
    obtain ⟨cell, hcell, hch⟩ := cell_of_startsWithChars hpre (by omega : scheme.length - 1 < scheme.length)
    have hslash : cell.ch = '/' := by
      rw [hch]
      rw [List.getLast?_eq_getElem?, List.getElem?_eq_getElem (by omega)] at hlast
      exact Option.some.inj hlast
    have hcut := htrimmed (start + (scheme.length - 1)) (by omega) (by omega)
    unfold shouldTrimTrailingUrlCell at hcut
    rw [hcell, Option.map_some, hslash] at hcut
    simp at hcut
  refine ⟨⟨scheme, hscheme, ?_, ?_⟩, ?_, by omega, ?_, ?_⟩
  · rwa [hspan]
  · rwa [hspan]
  · rwa [hspan]
  · rw [hspan]
    intro k hk hkle
    by_cases heq : k = start
    · rw [heq, cellIs, hfirst, Option.any_some, hletter]
      exact hwords _ (List.getElem_mem _)
    · exact hinside k (by omega) (by omega)
  · rwa [hspan]

lemma urlSpanFrom_spec {start : ℕ} {span : CellSpan} (h : urlSpanFrom cells i start = some span) :
    UrlSpan cells span ∧ span.start ≤ i ∧ i ≤ span.stop := by
  fun_induction urlSpanFrom cells i start with
  | case1 start hlt hstarts stop hinside =>
    obtain ⟨found, htrim, hfound⟩ := Option.bind_eq_some_iff.mp h
    by_cases hcontains : found.contains i = true
    · rw [if_pos hcontains] at hfound
      obtain rfl := Option.some.inj hfound
      rw [CellSpan.contains, Bool.and_eq_true, decide_eq_true_eq, decide_eq_true_eq] at hcontains
      exact ⟨trimUrlEdges_spec hstarts htrim, hcontains⟩
    · rw [if_neg hcontains] at hfound
      cases hfound
  | case2 start hlt hstarts stop hinside ih => exact ih h
  | case3 start hlt hstarts ih => exact ih h
  | case4 start hlt => cases h

lemma urlSpansFrom_spec {start : ℕ} {span : CellSpan} (h : span ∈ urlSpansFrom cells start) :
    UrlSpan cells span := by
  fun_induction urlSpansFrom cells start with
  | case1 start hlt hstarts stop ih =>
    rcases List.mem_append.mp h with h | h
    · exact trimUrlEdges_spec hstarts (Option.mem_toList.mp h)
    · exact ih h
  | case2 start hlt hstarts ih => exact ih h
  | case3 start hlt => cases h

/-! ### The text of a URL -/

/-- The brackets a URL may end with. -/
def urlBrackets : List (Char × Char) := [('(', ')'), ('[', ']'), ('{', '}')]

/-- The text is a part of the row around the clicked column; it begins with a web scheme, has no
blanks, and a closing bracket at its end closes an opening one. -/
structure UrlUnder (charWidth : Char → ℕ) (row : List Char) (col : ℕ) (url : List Char) : Prop where
  part : ∃ before after, row = before ++ (url ++ after) ∧
    column charWidth row before.length ≤ col ∧
    col ≤ column charWidth row (before.length + url.length) - 1
  scheme : httpScheme <+: url ∨ httpsScheme <+: url
  nonblank : ∀ c ∈ url, isWhitespace c = false
  balanced : ∀ bracket ∈ urlBrackets, url.getLast? = some bracket.2 →
    url.count bracket.2 ≤ url.count bracket.1

lemma getElem?_charOffsets (offset : ℕ) :
    (charOffsets offset row)[k]? = row[k]?.map fun _ => offset + byteLen (row.take k) := by
  induction row generalizing offset k with
  | nil => rfl
  | cons c row ih =>
    rw [charOffsets]
    cases k with
    | zero => simp
    | succ k =>
      rw [List.getElem?_cons_succ, List.getElem?_cons_succ, ih, List.take_succ_cons, byteLen_cons,
        Nat.add_assoc]

lemma charOffsets_getD : (charOffsets 0 row)[k]?.getD (byteLen row) = byteLen (row.take k) := by
  rw [getElem?_charOffsets]
  cases hk : row[k]? with
  | none =>
    rw [Option.map_none, Option.getD_none,
      List.take_of_length_le (List.getElem?_eq_none_iff.mp hk)]
  | some c => rw [Option.map_some, Option.getD_some, Nat.zero_add]

/-- The bytes of a span are its characters. -/
lemma getBytes_span (hab : a ≤ b + 1) :
    getBytes row (byteIndexForCell row a) (byteIndexAfterCell row b) =
      some ((row.take (b + 1)).drop a) := by
  have hfirst : byteIndexForCell row a = byteLen (row.take a) := charOffsets_getD
  have hlast : byteIndexAfterCell row b = byteLen (row.take (b + 1)) := charOffsets_getD
  have hsplit : row.take (b + 1) = row.take a ++ (row.take (b + 1)).drop a := by
    have h := List.take_append_drop a (row.take (b + 1))
    rwa [List.take_take, min_eq_left hab, eq_comm] at h
  have hlength : byteLen (row.take (b + 1)) =
      byteLen (row.take a) + byteLen ((row.take (b + 1)).drop a) := by
    rw [← byteLen_append, ← hsplit]
  have hrow : row = row.take a ++ ((row.take (b + 1)).drop a ++ row.drop (b + 1)) := by
    rw [← List.append_assoc, ← hsplit, List.take_append_drop]
  have hslice := sliceBytes_mid (row.take a) ((row.take (b + 1)).drop a) (row.drop (b + 1))
  rw [← hrow, ← hlength] at hslice
  rw [getBytes, hfirst, hlast, if_pos (by omega), hslice]
  rfl

lemma foldl_balance {opener closer : Char} (hne : closer ≠ opener) (inside : List TextCell)
    (start : ℤ) :
    inside.foldl (fun balance cell =>
      if cell.ch = opener then balance + 1
      else if cell.ch = closer then balance - 1
      else balance) start =
      start + ((inside.map TextCell.ch).count opener - (inside.map TextCell.ch).count closer : ℤ) := by
  induction inside generalizing start with
  | nil => simp
  | cons cell inside ih =>
    rw [List.foldl_cons, ih, List.map_cons, List.count_cons, List.count_cons]
    by_cases hopen : cell.ch = opener
    · rw [if_pos hopen, hopen]
      simp [hne.symm]
      omega
    · rw [if_neg hopen]
      by_cases hclose : cell.ch = closer
      · rw [if_pos hclose, hclose]
        simp [hne]
        omega
      · rw [if_neg hclose]
        simp [hopen, hclose]

/-- A closing bracket that is kept has an opening one. -/
lemma count_le_of_kept {bracket : Char × Char} (hbracket : bracket ∈ urlBrackets)
    (hch : row[b]? = some bracket.2) (hab : a ≤ b)
    (hkept : shouldTrimTrailingUrlCell (textCells charWidth row) a b = false) :
    ((row.take (b + 1)).drop a).count bracket.2 ≤ ((row.take (b + 1)).drop a).count bracket.1 := by
  have hcell : (textCells charWidth row)[b]?.map TextCell.ch = some bracket.2 := by
    rw [← List.getElem?_map, map_ch_textCells, hch]
  have hbalanced : trailingUrlCloserIsBalanced (textCells charWidth row) a b
      bracket.1 bracket.2 = true := by
    unfold shouldTrimTrailingUrlCell at hkept
    rw [hcell] at hkept
    simp only [urlBrackets, List.mem_cons, List.not_mem_nil, or_false] at hbracket
    rcases hbracket with rfl | rfl | rfl <;> simpa using hkept
  have hne : bracket.2 ≠ bracket.1 := by
    simp only [urlBrackets, List.mem_cons, List.not_mem_nil, or_false] at hbracket
    rcases hbracket with rfl | rfl | rfl <;> decide
  have hinside : (((textCells charWidth row).take b).drop a).map TextCell.ch =
      (row.take b).drop a := by
    rw [List.map_drop, List.map_take, map_ch_textCells]
  have hlong : (row.take (b + 1)).drop a = (row.take b).drop a ++ [bracket.2] := by
    have hlength := (List.getElem?_eq_some_iff.mp hch).1
    rw [List.take_add_one, hch, Option.toList_some, List.drop_append_of_le_length]
    rw [List.length_take]
    omega
  unfold trailingUrlCloserIsBalanced at hbalanced
  dsimp only at hbalanced
  rw [foldl_balance hne, hinside, decide_eq_true_eq] at hbalanced
  rw [hlong, List.count_append, List.count_append]
  simp only [List.count_singleton, beq_self_eq_true, if_true, beq_iff_eq, if_neg hne]
  omega

/-- A URL that is found is one under the click. -/
lemma urlAtColumn_spec {url : List Char}
    (h : urlAtColumn charWidth row col = some url) : UrlUnder charWidth row col url := by
  unfold urlAtColumn at h
  obtain ⟨i, hclicked, h⟩ := Option.bind_eq_some_iff.mp h
  obtain ⟨span, hfind, h⟩ := Option.bind_eq_some_iff.mp h
  obtain ⟨text, hbytes, h⟩ := Option.bind_eq_some_iff.mp h
  have hspan := urlSpansFrom_spec (List.mem_of_find?_eq_some hfind)
  have hcontains := List.find?_some hfind
  rw [CellSpan.contains, Bool.and_eq_true, decide_eq_true_eq, decide_eq_true_eq] at hcontains
  obtain ⟨hleft, hright⟩ := hcontains
  have hstop : span.stop < row.length := by
    have := hspan.stop_lt
    rwa [length_textCells] at this
  have hstart := hspan.start_le
  rw [getBytes_span (by omega)] at hbytes
  have hurl : text = url := by
    unfold safeWebUrl at h
    by_cases hweb : (httpScheme.isPrefixOf text || httpsScheme.isPrefixOf text) = true
    · rw [if_pos hweb] at h
      exact Option.some.inj h
    · rw [if_neg hweb] at h
      cases h
  subst hurl
  have htext := Option.some.inj hbytes
  have hdrop : text = (row.drop span.start).take (span.stop + 1 - span.start) := by
    rw [← htext, List.drop_take]
  constructor
  · refine ⟨row.take span.start, row.drop (span.stop + 1), ?_, ?_, ?_⟩
    · have hparts := List.take_append_drop span.start (row.take (span.stop + 1))
      rw [List.take_take, min_eq_left (by omega), htext] at hparts
      rw [← List.append_assoc, hparts, List.take_append_drop]
    · obtain ⟨ch, -, hcol, -⟩ := clicked_cases hclicked
      rw [List.length_take, min_eq_left (by omega)]
      exact (min_le_left _ _).trans ((columnOf_mono charWidth row hleft).trans hcol)
    · obtain ⟨ch, -, -, hcol, -⟩ := clicked_cases hclicked
      have hlength : (row.take span.start).length + text.length = span.stop + 1 := by
        rw [← htext, List.length_take, List.length_drop, List.length_take]
        omega
      rw [hlength]
      exact hcol.trans (Nat.sub_le_sub_right (column_mono (Nat.succ_le_succ hright)) 1)
  · obtain ⟨scheme, hscheme, hpre, hlong⟩ := hspan.scheme
    have htake : scheme <+: text := by
      rw [hdrop, List.prefix_take_iff]
      rw [startsWithChars, List.map_drop, map_ch_textCells] at hpre
      exact ⟨List.isPrefixOf_iff_prefix.mp hpre, by omega⟩
    simp only [List.mem_cons, List.not_mem_nil, or_false] at hscheme
    rcases hscheme with rfl | rfl
    · exact Or.inl htake
    · exact Or.inr htake
  · intro c hc
    rw [← htext] at hc
    obtain ⟨n, hn, hget⟩ := List.mem_drop_iff_getElem.mp hc
    rw [List.getElem_take] at hget
    rw [List.length_take] at hn
    have hblank := hspan.nonblank (span.start + n) (by omega) (by omega)
    rw [cellIs_textCells, List.getElem?_eq_getElem (by omega), Option.any_some] at hblank
    rw [← hget]
    exact hblank
  · intro bracket hbracket hlast
    rw [← htext] at hlast ⊢
    apply count_le_of_kept hbracket _ hspan.start_le hspan.kept
    have hlong : ¬ (row.take (span.stop + 1)).length ≤ span.start := by
      rw [List.length_take]
      omega
    rw [List.getLast?_drop, if_neg hlong, List.getLast?_take, if_neg (by omega),
      Nat.add_sub_cancel, List.getElem?_eq_getElem hstop, Option.some_or] at hlast
    rw [List.getElem?_eq_getElem hstop, hlast]

/-! ### Where marks mislead the token rule -/

/-- No URL and no quoted path is under the click, and the clicked character belongs to a token. -/
def TokenClicked (charWidth : Char → ℕ) (row : List Char) (col i : ℕ) : Prop :=
  cellIndexAtColumn (textCells charWidth row) col = some i ∧
    urlSpanAtColumn (textCells charWidth row) i = none ∧
    quotedPathSpanAtColumn (textCells charWidth row) i = none ∧
    (tokenSpanAtColumn (textCells charWidth row) i).isSome = true

/-- The run of the character begins, behind a separator, with a mark whose base is wide. -/
def MarkBehindWide (charWidth : Char → ℕ) (row : List Char) (i : ℕ) : Prop :=
  ∃ first ≤ i, (∃ mark, row[first]? = some mark ∧ charWidth mark = 0) ∧
    (∀ k, first ≤ k → k ≤ i → ∀ ch ∈ row[k]?, isWordSeparator ch = false) ∧
    (∃ separator, row[first - 1]? = some separator ∧ isWordSeparator separator = true) ∧
    ∃ q base, q < first ∧ row[q]? = some base ∧ 1 < charWidth base ∧
      ∀ k, q < k → k < first → ∀ ch ∈ row[k]?, charWidth ch = 0

/-- The row begins with a run of marks only, and its first character with a width is no narrow
one. -/
def OnlyMarks (charWidth : Char → ℕ) (row : List Char) : Prop :=
  (∀ k : ℕ, (∀ j ≤ k, ∀ ch ∈ row[j]?, isWordSeparator ch = false) →
    ∀ ch ∈ row[k]?, charWidth ch = 0) ∧ ¬ FirstIsNarrow charWidth row

/-- Printable ASCII characters take one column. -/
def AsciiIsNarrow (charWidth : Char → ℕ) : Prop :=
  ∀ ch : Char, 0x20 ≤ ch.toNat → ch.toNat < 0x7f → charWidth ch = 1

variable {span : CellSpan} {first last q : ℕ} {base : Char}

lemma AsciiIsNarrow.of_mem (h : AsciiIsNarrow charWidth) {chars : List Char}
    (hchars : chars.all (fun ch => decide (0x20 ≤ ch.toNat) && decide (ch.toNat < 0x7f)) = true)
    (hch : ch ∈ chars) : charWidth ch = 1 := by
  have hrange := List.all_eq_true.mp hchars ch hch
  rw [Bool.and_eq_true, decide_eq_true_eq, decide_eq_true_eq] at hrange
  exact h ch hrange.1 hrange.2

lemma AsciiIsNarrow.leading (h : AsciiIsNarrow charWidth)
    (hch : isLeadingTokenWrapper ch = true) : charWidth ch = 1 :=
  h.of_mem (by decide) (of_decide_eq_true hch)

lemma AsciiIsNarrow.trailing (h : AsciiIsNarrow charWidth)
    (hch : isTrailingTokenWrapper ch = true ∨ ch = '$') : charWidth ch = 1 := by
  rcases hch with hch | rfl
  · exact h.of_mem (by decide) (of_decide_eq_true hch)
  · exact h '$' (by decide) (by decide)

lemma AsciiIsNarrow.quote (h : AsciiIsNarrow charWidth) (hch : ch ∈ pathQuotes) :
    charWidth ch = 1 :=
  h.of_mem (by decide) hch

lemma any_of_cellIs (h : cellIs (textCells charWidth row) p k = true) :
    ∃ ch, row[k]? = some ch ∧ p ch = true := by
  rw [cellIs_textCells] at h
  cases hk : row[k]? with
  | none =>
    rw [hk] at h
    cases h
  | some ch =>
    rw [hk] at h
    exact ⟨ch, rfl, h⟩

lemma of_cellIs_eq_false (h : cellIs (textCells charWidth row) p k = false) :
    ∀ ch ∈ row[k]?, p ch = false := by
  intro ch hch
  rw [cellIs_textCells, Option.mem_def.mp hch, Option.any_some] at h
  exact h

/-- The last character with a width before a position is the only one that all later ones are marks
behind. -/
lemma base_unique {q' : ℕ} {base' : Char} (hq : q < a) (hbase : row[q]? = some base)
    (hwide : 0 < charWidth base)
    (hzero : ∀ k, q < k → k < a → ∀ ch ∈ row[k]?, charWidth ch = 0) (hq' : q' < a)
    (hbase' : row[q']? = some base') (hwide' : 0 < charWidth base')
    (hzero' : ∀ k, q' < k → k < a → ∀ ch ∈ row[k]?, charWidth ch = 0) : base = base' := by
  rcases lt_trichotomy q q' with hlt | rfl | hgt
  · have h := hzero q' hlt hq' base' hbase'
    omega
  · exact Option.some.inj (hbase.symm.trans hbase')
  · have h := hzero' q hgt hq base hbase
    omega

/-- The run of a token is that of the clicked character. -/
lemma TokenSpan.first_eq (h : TokenSpan (textCells charWidth row) i span first last) {first' : ℕ}
    (hle : first' ≤ i)
    (hrun : ∀ k, first' ≤ k → k ≤ i → ∀ ch ∈ row[k]?, isWordSeparator ch = false)
    (hbefore : ∃ separator, row[first' - 1]? = some separator ∧ isWordSeparator separator = true)
    (hpos : 0 < first') : first' = first := by
  have hfirst := h.first_le.trans h.start_le
  rcases lt_trichotomy first' first with hlt | heq | hgt
  · obtain ⟨separator, hsep, hyes⟩ := any_of_cellIs (h.before (by omega))
    have hno := hrun (first - 1) (by omega) (by omega) separator hsep
    rw [hyes] at hno
    cases hno
  · exact heq
  · obtain ⟨separator, hsep, hyes⟩ := hbefore
    have hlast := h.le_stop.trans h.stop_le
    have hno := of_cellIs_eq_false (h.run (first' - 1) (by omega) (by omega)) separator hsep
    rw [hyes] at hno
    cases hno

/-- The mark and its base are looked for at the start of the token's run. -/
lemma TokenSpan.markBehindWide_iff (h : TokenSpan (textCells charWidth row) i span first last) :
    MarkBehindWide charWidth row i ↔ (∃ mark, row[first]? = some mark ∧ charWidth mark = 0) ∧
      ∃ q base, q < first ∧ row[q]? = some base ∧ 1 < charWidth base ∧
        ∀ k, q < k → k < first → ∀ ch ∈ row[k]?, charWidth ch = 0 := by
  have hfirst := h.first_le.trans h.start_le
  have hlast := h.le_stop.trans h.stop_le
  constructor
  · rintro ⟨first', hle, hmark, hrun, hbefore, q, base, hq, hbase⟩
    obtain rfl := h.first_eq hle hrun hbefore (by omega)
    exact ⟨hmark, q, base, hq, hbase⟩
  · rintro ⟨hmark, q, base, hq, hbase⟩
    refine ⟨first, hfirst, hmark, ?_, any_of_cellIs (h.before (by omega)), q, base, hq, hbase⟩
    exact fun k hk hki => of_cellIs_eq_false (h.run k hk (by omega))

/-- A token of marks only takes no column. -/
lemma TokenSpan.columnOf_of_onlyMarks (h : TokenSpan (textCells charWidth row) i span first last)
    (hi : i = 0) (hmarks : OnlyMarks charWidth row) :
    columnOf charWidth row (span.stop + 1) = 0 := by
  have hfirst := h.first_le.trans h.start_le
  have hstop := h.stop_le
  apply columnOf_eq_zero
  intro k hk ch hch
  refine hmarks.1 k (fun j hj => ?_) ch hch
  exact of_cellIs_eq_false (h.run j (by omega) (by omega))

/-- A first character with a width that a token of marks does not reach was trimmed or stands behind
a separator. -/
lemma TokenSpan.onlyMarks (hascii : AsciiIsNarrow charWidth)
    (h : TokenSpan (textCells charWidth row) i span first last)
    (hzero : columnOf charWidth row (span.stop + 1) = 0)
    (hwide : ¬ FirstIsNarrow charWidth row) : OnlyMarks charWidth row := by
  refine ⟨?_, hwide⟩
  intro k hrun ch hk
  by_contra hpos
  have hklast : k ≤ last := by
    by_contra hgt
    have hklt := (List.getElem?_eq_some_iff.mp hk).1
    have hbehind : last + 1 < (textCells charWidth row).length := by
      rw [length_textCells]
      omega
    obtain ⟨separator, hsep, hyes⟩ := any_of_cellIs (h.behind hbehind)
    have hno := hrun (last + 1) (by omega) separator hsep
    rw [hyes] at hno
    cases hno
  have hkcol := columnOf_succ charWidth hk
  obtain ⟨p, c, hp, hc, hcpos, hlow, -⟩ :=
    exists_crossing Nat.one_pos (by omega : 1 ≤ columnOf charWidth row (k + 1))
  have hpstop : span.stop < p := by
    by_contra hle
    have hcwidth := width_eq_zero_of_columnOf hzero (by omega) hc
    omega
  have htrimmed : isTrailingTokenWrapper c = true ∨ c = '$' := by
    rcases h.trailing p hpstop (by omega) with hcut | hcut
    · obtain ⟨c', hc', hkind⟩ := any_of_cellIs hcut
      rw [hc] at hc'
      rw [Option.some.inj hc']
      exact Or.inl hkind
    · obtain ⟨c', hc', hkind⟩ := any_of_cellIs hcut
      rw [hc] at hc'
      rw [Option.some.inj hc']
      exact Or.inr (of_decide_eq_true hkind)
  exact hwide ⟨p, c, hc, hascii.trailing htrimmed, by omega⟩

section
variable (hascii : AsciiIsNarrow charWidth)
  (hclicked : cellIndexAtColumn (textCells charWidth row) col = some i)
  (h : TokenSpan (textCells charWidth row) i span first last)

include h

lemma TokenSpan.stop_lt : span.stop < row.length := by
  have hstop := h.stop_le
  have hlast := h.last_lt
  rw [length_textCells] at hlast
  omega

include hascii hclicked

/-- Behind a wrapper that was trimmed the token is aligned. -/
lemma TokenSpan.aligned_of_wrapper (hwrapped : first < span.start) :
    AlignedBounds charWidth row col
        (spanStart charWidth row span.start, column charWidth row (span.stop + 1) - 1) ∧
      ¬ (MarkBehindWide charWidth row i ∨ (i = 0 ∧ OnlyMarks charWidth row)) := by
  have hstart := h.start_le
  constructor
  · obtain ⟨start, hsucc⟩ : ∃ start, span.start = start + 1 := ⟨span.start - 1, by omega⟩
    obtain ⟨wrapper, hwrapper, hkind⟩ := any_of_cellIs (h.leading start (by omega) (by omega))
    rw [hsucc]
    exact alignedBounds_of_narrow hclicked (by omega) h.le_stop h.stop_lt hwrapper
      (hascii.leading hkind)
  · obtain ⟨wrapper, hwrapper, hkind⟩ := any_of_cellIs (h.leading first le_rfl hwrapped)
    have hnarrow := hascii.leading hkind
    rw [h.markBehindWide_iff]
    rintro (⟨⟨mark, hmark, hzero⟩, -⟩ | ⟨hi, -⟩)
    · rw [hwrapper] at hmark
      rw [Option.some.inj hmark] at hnarrow
      omega
    · omega

omit hascii

/-- A token that begins with a character with a width is aligned. -/
lemma TokenSpan.aligned_of_width (hstart : span.start = first) (hch : row[first]? = some ch)
    (hpos : 0 < charWidth ch) :
    AlignedBounds charWidth row col
        (spanStart charWidth row span.start, column charWidth row (span.stop + 1) - 1) ∧
      ¬ (MarkBehindWide charWidth row i ∨ (i = 0 ∧ OnlyMarks charWidth row)) := by
  have hle := h.start_le
  have hstop := h.le_stop
  constructor
  · rw [← hstart] at hch
    exact alignedBounds_of_width hclicked hle hstop h.stop_lt hch hpos
  · rw [h.markBehindWide_iff]
    rintro (⟨⟨mark, hmark, hzero⟩, -⟩ | ⟨hi, hmarks⟩)
    · rw [hch] at hmark
      rw [Option.some.inj hmark] at hpos
      omega
    · have hcolumn := h.columnOf_of_onlyMarks hi hmarks
      have hwidth := width_eq_zero_of_columnOf hcolumn (by omega) hch
      omega

/-- A token that begins with a mark is aligned at its start when the base of the mark is narrow. -/
lemma TokenSpan.aligned_iff_of_base (hstart : span.start = first) (hch : row[first]? = some ch)
    (hmark : charWidth ch = 0) (hcolumn : 0 < columnOf charWidth row first) :
    AlignedBounds charWidth row col
        (spanStart charWidth row span.start, column charWidth row (span.stop + 1) - 1) ↔
      ¬ (MarkBehindWide charWidth row i ∨ (i = 0 ∧ OnlyMarks charWidth row)) := by
  have hle := h.start_le
  have hstop := h.le_stop
  obtain ⟨clicked, -, -, -, hlow, -⟩ := clicked_cases hclicked
  obtain ⟨q, base, hq, hbase, hwide, hbasecol, hzero⟩ := exists_base hcolumn
  have hmono := columnOf_mono charWidth row (show first ≤ i by omega)
  have hlast : IsLastColumn charWidth row (column charWidth row (span.stop + 1) - 1) := by
    apply isLastColumn_of_pos
    exact hcolumn.trans_le (columnOf_mono charWidth row (by omega))
  have hspanStart : spanStart charWidth row first = column charWidth row first - 1 := by
    rw [spanStart, hch, Option.any_some, if_pos (by simpa using hmark)]
  have hi : i ≠ 0 := by
    rintro rfl
    have hfirst : first = 0 := by omega
    rw [hfirst, columnOf_zero] at hcolumn
    omega
  rw [alignedBounds_iff hclicked hle hstop h.stop_lt, and_iff_left hlast, hstart, hspanStart,
    isFirstColumn_mark_iff hbase hwide hbasecol (by omega), h.markBehindWide_iff]
  constructor
  · rintro hone (⟨-, q', base', hq', hbase', hwide', hzero'⟩ | ⟨hi', -⟩)
    · have hbases := base_unique hq hbase hwide hzero hq' hbase' (by omega) hzero'
      rw [← hbases] at hwide'
      omega
    · exact hi hi'
  · intro hnot
    by_contra hne
    apply hnot
    exact Or.inl ⟨⟨ch, hch, hmark⟩, q, base, hq, hbase, by omega, hzero⟩

include hascii

/-- A token at the start of the row that begins with a mark ends with the first character with a
width, or is one of marks only. -/
lemma TokenSpan.aligned_iff_of_start (hstart : span.start = first) (hch : row[first]? = some ch)
    (hmark : charWidth ch = 0) (hcolumn : columnOf charWidth row first = 0) :
    AlignedBounds charWidth row col
        (spanStart charWidth row span.start, column charWidth row (span.stop + 1) - 1) ↔
      ¬ (MarkBehindWide charWidth row i ∨ (i = 0 ∧ OnlyMarks charWidth row)) := by
  have hle := h.start_le
  have hstop := h.le_stop
  have hspanStart : spanStart charWidth row first = 0 := by
    rw [spanStart, hch, Option.any_some, if_pos (by simpa using hmark), column, hcolumn]
    rfl
  have hnobase : ¬ MarkBehindWide charWidth row i := by
    rw [h.markBehindWide_iff]
    rintro ⟨-, q, base, hq, hbase, hwide, -⟩
    have hbasecol := columnOf_add_le charWidth hbase hq
    omega
  have hrow := columnOf_mono charWidth row (show span.stop + 1 ≤ row.length from h.stop_lt)
  rw [alignedBounds_iff hclicked hle hstop h.stop_lt, hstart, hspanStart, isFirstColumn_zero_iff,
    or_iff_right hnobase]
  by_cases hstopColumn : 0 < columnOf charWidth row (span.stop + 1)
  · refine iff_of_true ⟨by omega, isLastColumn_of_pos hstopColumn⟩ ?_
    rintro ⟨hi, hmarks⟩
    have hzero := h.columnOf_of_onlyMarks hi hmarks
    omega
  · have hzero : columnOf charWidth row (span.stop + 1) = 0 := by omega
    have hlast : column charWidth row (span.stop + 1) - 1 = 0 := by
      rw [column, hzero]
      rfl
    rw [hlast, isLastColumn_zero_iff]
    constructor
    · rintro ⟨-, hnarrow⟩ ⟨-, hmarks⟩
      exact hmarks.2 hnarrow
    · intro hnot
      by_contra hfails
      have hwide : ¬ FirstIsNarrow charWidth row := by
        rintro ⟨k, c, hk, hone, hzero⟩
        apply hfails
        have hkcol := columnOf_add_le charWidth hk (List.getElem?_eq_some_iff.mp hk).1
        exact ⟨by omega, k, c, hk, hone, hzero⟩
      apply hnot
      refine ⟨?_, h.onlyMarks hascii hzero hwide⟩
      obtain ⟨clicked, hclickedChar, -, -, -, hkind⟩ := clicked_cases hclicked
      have hwidth := width_eq_zero_of_columnOf hzero (by omega) hclickedChar
      rcases hkind with hpos | ⟨hi, -⟩
      · omega
      · exact hi

/-- A token is aligned unless marks mislead the rule. -/
lemma TokenSpan.aligned_iff :
    AlignedBounds charWidth row col
        (spanStart charWidth row span.start, column charWidth row (span.stop + 1) - 1) ↔
      ¬ (MarkBehindWide charWidth row i ∨ (i = 0 ∧ OnlyMarks charWidth row)) := by
  have hfirst := h.first_le
  have hle := h.start_le
  have hstop := h.le_stop
  have hlength := h.stop_lt
  have hch : row[first]? = some row[first] := List.getElem?_eq_getElem (by omega)
  by_cases hwrapped : first < span.start
  · obtain ⟨haligned, hmarks⟩ := h.aligned_of_wrapper hascii hclicked hwrapped
    exact iff_of_true haligned hmarks
  · have hstart : span.start = first := by omega
    by_cases hpos : 0 < charWidth row[first]
    · obtain ⟨haligned, hmarks⟩ := h.aligned_of_width hclicked hstart hch hpos
      exact iff_of_true haligned hmarks
    · by_cases hcolumn : 0 < columnOf charWidth row first
      · exact h.aligned_iff_of_base hclicked hstart hch (by omega) hcolumn
      · exact h.aligned_iff_of_start hascii hclicked hstart hch (by omega) (by omega)

end

/-! ### What a click selects -/

/-- The columns of a word are aligned, and a URL is one under the click. -/
structure SelectsAligned (charWidth : Char → ℕ) (row : List Char) (col : ℕ) : Prop where
  word : ∀ bounds, wordBoundsAtColumn charWidth row col = some bounds →
    AlignedBounds charWidth row col bounds
  url : ∀ url, urlAtColumn charWidth row col = some url → UrlUnder charWidth row col url

lemma wordBoundsAtColumn_eq_some {bounds : ℕ × ℕ} :
    wordBoundsAtColumn charWidth row col = some bounds ↔
      ∃ i span, cellIndexAtColumn (textCells charWidth row) col = some i ∧
        ((urlSpanAtColumn (textCells charWidth row) i).or
          (quotedPathSpanAtColumn (textCells charWidth row) i)).or
            (tokenSpanAtColumn (textCells charWidth row) i) = some span ∧
        span.columns (textCells charWidth row) = some bounds := by
  unfold wordBoundsAtColumn
  constructor
  · intro h
    obtain ⟨i, hclicked, h⟩ := Option.bind_eq_some_iff.mp h
    obtain ⟨span, hspan, h⟩ := Option.bind_eq_some_iff.mp h
    exact ⟨i, span, hclicked, hspan, h⟩
  · rintro ⟨i, span, hclicked, hspan, h⟩
    exact Option.bind_eq_some_iff.mpr ⟨i, hclicked, Option.bind_eq_some_iff.mpr ⟨span, hspan, h⟩⟩

lemma UrlSpan.aligned (hascii : AsciiIsNarrow charWidth)
    (hclicked : cellIndexAtColumn (textCells charWidth row) col = some i)
    (h : UrlSpan (textCells charWidth row) span) (hleft : span.start ≤ i) (hright : i ≤ span.stop)
    (hstop : span.stop < row.length) : AlignedBounds charWidth row col
      (spanStart charWidth row span.start, column charWidth row (span.stop + 1) - 1) := by
  obtain ⟨scheme, hscheme, hpre, -⟩ := h.scheme
  obtain ⟨hhead, -, -⟩ := scheme_spec scheme hscheme
  cases scheme with
  | nil => cases hhead
  | cons c scheme =>
    obtain ⟨cell, hcell, hletter⟩ := cell_of_startsWithChars hpre (Nat.succ_pos scheme.length)
    have hch : row[span.start]? = some c := by
      rw [Nat.add_zero] at hcell
      have hmap := congrArg (Option.map TextCell.ch) hcell
      rw [← List.getElem?_map, map_ch_textCells, Option.map_some, hletter] at hmap
      exact hmap
    have hnarrow : charWidth c = 1 := by
      rw [Option.some.inj hhead]
      exact hascii 'h' (by decide) (by decide)
    exact alignedBounds_of_width hclicked hleft hright hstop hch (by omega)

/-- A click selects aligned columns unless the token under it begins with a mark on a wide character
behind which it starts, or is made of marks at the start of a row that begins wide. -/
theorem selectsAligned_iff (hascii : AsciiIsNarrow charWidth) :
    SelectsAligned charWidth row col ↔
      ¬∃ i, TokenClicked charWidth row col i ∧
        (MarkBehindWide charWidth row i ∨ (i = 0 ∧ OnlyMarks charWidth row)) := by
  constructor
  · rintro h ⟨i, ⟨hclicked, hurl, hquoted, htoken⟩, hmarks⟩
    obtain ⟨span, hspan⟩ := Option.isSome_iff_exists.mp htoken
    obtain ⟨ch, hch, -⟩ := clicked_cases hclicked
    have hi : i < (textCells charWidth row).length := by
      rw [length_textCells]
      exact (List.getElem?_eq_some_iff.mp hch).1
    have hspec := tokenSpanAtColumn_spec hi hspan
    have hstart := hspec.start_le
    have hstop := hspec.stop_lt
    have hcolumns : ∃ bounds, span.columns (textCells charWidth row) = some bounds := by
      have hstopCells : span.stop < (textCells charWidth row).length := by
        rw [length_textCells]
        exact hstop
      unfold CellSpan.columns
      rw [List.getElem?_eq_getElem (hstart.trans_lt hi), List.getElem?_eq_getElem hstopCells]
      exact ⟨_, rfl⟩
    obtain ⟨bounds, hbounds⟩ := hcolumns
    have hword : wordBoundsAtColumn charWidth row col = some bounds := by
      rw [wordBoundsAtColumn_eq_some]
      refine ⟨i, span, hclicked, ?_, hbounds⟩
      rw [hurl, hquoted, hspan]
      rfl
    have haligned := h.word bounds hword
    rw [(columns_textCells hbounds).1] at haligned
    exact (hspec.aligned_iff hascii hclicked).mp haligned hmarks
  · intro hnone
    refine ⟨?_, fun url hurl => urlAtColumn_spec hurl⟩
    intro bounds hword
    obtain ⟨i, span, hclicked, hspan, hbounds⟩ := wordBoundsAtColumn_eq_some.mp hword
    obtain ⟨rfl, hstop⟩ := columns_textCells hbounds
    cases hurl : urlSpanAtColumn (textCells charWidth row) i with
    | some found =>
      rw [hurl, Option.some_or, Option.some_or] at hspan
      obtain rfl := Option.some.inj hspan
      obtain ⟨hfound, hleft, hright⟩ := urlSpanFrom_spec hurl
      exact hfound.aligned hascii hclicked hleft hright hstop
    | none =>
      rw [hurl, Option.none_or] at hspan
      cases hquoted : quotedPathSpanAtColumn (textCells charWidth row) i with
      | some found =>
        rw [hquoted, Option.some_or] at hspan
        obtain rfl := Option.some.inj hspan
        obtain ⟨quote, hquote, opened, hstart, hcell, hleft, hright, -⟩ :=
          quotedPathSpanAtColumn_spec hquoted
        obtain ⟨ch, hch, hsame⟩ := any_of_cellIs hcell
        rw [of_decide_eq_true hsame] at hch
        rw [hstart]
        exact alignedBounds_of_narrow hclicked (by omega) hright hstop hch (hascii.quote hquote)
      | none =>
        rw [hquoted, Option.none_or] at hspan
        obtain ⟨ch, hch, -⟩ := clicked_cases hclicked
        have hi : i < (textCells charWidth row).length := by
          rw [length_textCells]
          exact (List.getElem?_eq_some_iff.mp hch).1
        have hspec := tokenSpanAtColumn_spec hi hspan
        rw [hspec.aligned_iff hascii hclicked]
        intro hmarks
        apply hnone
        refine ⟨i, ⟨hclicked, hurl, hquoted, ?_⟩, hmarks⟩
        rw [hspan]
        rfl

/-! ### A mark on a wide blank -/

/-- The widths of an ideographic space and of a combining acute accent. -/
def markWidth (ch : Char) : ℕ :=
  if ch = '\u3000' then 2 else if ch = '\u0301' then 0 else 1

def markedRow : List Char := ['\u3000', '\u0301', 'a', 'b', 'c']

lemma asciiIsNarrow_markWidth : AsciiIsNarrow markWidth := by
  intro ch hlow hhigh
  have hspace : ch ≠ '\u3000' := by
    rintro rfl
    exact absurd hhigh (by decide)
  have haccent : ch ≠ '\u0301' := by
    rintro rfl
    exact absurd hhigh (by decide)
  rw [markWidth, if_neg hspace, if_neg haccent]

/-- The token behind the blank begins in the second column of the blank. -/
theorem not_selectsAligned_markedRow : ¬ SelectsAligned markWidth markedRow 2 := by
  intro h
  have hword : wordBoundsAtColumn markWidth markedRow 2 = some (1, 4) := by decide +kernel
  obtain ⟨k, ch, hch, hpos, hk⟩ := (h.word (1, 4) hword).first
  have hlength := (List.getElem?_eq_some_iff.mp hch).1
  have hnone : ∀ k < markedRow.length, 1 ≠ column markWidth markedRow k ∨
      markedRow[k]?.any (fun ch => markWidth ch = 0) = true := by decide
  rcases hnone k hlength with hne | hmark
  · exact hne hk
  · rw [hch, Option.any_some, decide_eq_true_eq] at hmark
    omega

/-- A URL behind an accented and a wide character. -/
def mixedRow : List Char := ['e', '\u0301', '漢', ' '] ++ "https://a.b".toList

def mixedWidth (ch : Char) : ℕ := if ch = '漢' then 2 else markWidth ch

lemma asciiIsNarrow_mixedWidth : AsciiIsNarrow mixedWidth := by
  intro ch hlow hhigh
  have hwide : ch ≠ '漢' := by
    rintro rfl
    exact absurd hhigh (by decide)
  rw [mixedWidth, if_neg hwide]
  exact asciiIsNarrow_markWidth ch hlow hhigh

theorem selectsAligned_mixedRow :
    wordBoundsAtColumn mixedWidth mixedRow 2 = some (0, 2) ∧
      (urlAtColumn mixedWidth mixedRow 7).isSome = true ∧
      ∀ col, SelectsAligned mixedWidth mixedRow col := by
  refine ⟨by decide +kernel, by decide +kernel, fun col => ?_⟩
  apply (selectsAligned_iff asciiIsNarrow_mixedWidth).mpr
  rintro ⟨i, -, ⟨first, -, ⟨mark, hmark, hzero⟩, -, ⟨separator, hsep, hyes⟩, -⟩ | ⟨-, -, hwide⟩⟩
  · -- the only mark stands behind the letter that it accents
    have honly : ∀ k < mixedRow.length,
        mixedRow[k]?.any (fun ch => mixedWidth ch = 0) = true → k = 1 := by decide
    have hlength := (List.getElem?_eq_some_iff.mp hmark).1
    obtain rfl : first = 1 := honly first hlength (by simpa [hmark] using hzero)
    obtain rfl : 'e' = separator := Option.some.inj hsep
    exact absurd hyes (by decide)
  · exact hwide ⟨0, 'e', rfl, by decide, rfl⟩

end

end Ork3.App
