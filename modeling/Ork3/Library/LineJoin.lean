import Ork3.Library.Lines
import Ork3.Library.Tokens

/-!
# Texts put together from lines

Rows are lines before a carriage return is taken from their end. A text is its rows with a line feed
between them, so an editor that joins lines keeps a text exactly where no row ends in a carriage
return.
-/

namespace Ork3.Library

/-- A row without a carriage return at its end. -/
def stripReturn (row : List Char) : List Char := (stripSuffix ['\r'] row).getD row

/-- Each row with a line feed behind it. -/
def unlines (rows : List (List Char)) : List Char := rows.flatMap (· ++ ['\n'])

/-- `trim_end_matches('\n')`. -/
def trimNewlines (text : List Char) : List Char := text.rdropWhile (· = '\n')

section
variable {text row last : List Char} {rows front : List (List Char)}

@[simp] lemma unlines_nil : unlines [] = [] := rfl

@[simp] lemma unlines_cons (row : List Char) (rows : List (List Char)) :
    unlines (row :: rows) = row ++ '\n' :: unlines rows := by
  simp [unlines]

@[simp] lemma unlines_append (rows more : List (List Char)) :
    unlines (rows ++ more) = unlines rows ++ unlines more :=
  List.flatMap_append

lemma stripReturn_concat (row : List Char) : stripReturn (row ++ ['\r']) = row := by
  simp [stripReturn, stripSuffix_append]

lemma stripReturn_of_ne (h : row.getLast? ≠ some '\r') : stripReturn row = row := by
  rcases List.eq_nil_or_concat row with rfl | ⟨front, c, rfl⟩
  · rfl
  · rw [List.concat_eq_append] at h ⊢
    have hc : c ≠ '\r' := by simpa using h
    simp [stripReturn, stripSuffix_concat_of_ne hc.symm]

/-- A row that keeps its end does not end in a carriage return. -/
lemma stripReturn_eq_self_iff : stripReturn row = row ↔ row.getLast? ≠ some '\r' := by
  constructor
  · intro h hlast
    obtain ⟨front, rfl⟩ := List.getLast?_eq_some_iff.mp hlast
    rw [stripReturn_concat] at h
    have hlength := congrArg List.length h
    simp at hlength
  · exact stripReturn_of_ne

lemma prefix_stripReturn (row : List Char) : stripReturn row <+: row := by
  by_cases h : row.getLast? = some '\r'
  · obtain ⟨front, rfl⟩ := List.getLast?_eq_some_iff.mp h
    rw [stripReturn_concat]
    exact List.prefix_append _ _
  · rw [stripReturn_of_ne h]

/-! ### Lines of rows -/

lemma lines_append_newline (h : '\n' ∉ row) (text : List Char) :
    lines (row ++ '\n' :: text) = stripReturn row :: lines text := by
  unfold lines
  rw [segments_append_of_terminated h, List.map_cons]
  simp [stripLineEnd, stripReturn, stripSuffix_append]

lemma lines_unlines_append (h : ∀ row ∈ rows, '\n' ∉ row) (text : List Char) :
    lines (unlines rows ++ text) = rows.map stripReturn ++ lines text := by
  induction rows with
  | nil => rfl
  | cons row rows ih =>
    have hrow := h row List.mem_cons_self
    have hrows := ih fun r hr => h r (List.mem_cons_of_mem row hr)
    rw [unlines_cons, List.append_assoc, List.cons_append, lines_append_newline hrow, hrows]
    rfl

lemma lines_unlines (h : ∀ row ∈ rows, '\n' ∉ row) :
    lines (unlines rows) = rows.map stripReturn := by
  simpa [lines] using lines_unlines_append h []

lemma lines_of_notMem (h : '\n' ∉ row) : lines row = if row = [] then [] else [row] := by
  rcases List.eq_nil_or_concat row with rfl | ⟨front, c, rfl⟩
  · rfl
  · rw [List.concat_eq_append] at h ⊢
    have hc : c ≠ '\n' := by
      rintro rfl
      exact h (by simp)
    rw [if_neg (by simp), lines, segments_of_notMem h (by simp)]
    simp [stripLineEnd_of_open hc]

lemma intercalate_concat (front : List (List Char)) (last : List Char) :
    ['\n'].intercalate (front ++ [last]) = unlines front ++ last := by
  induction front with
  | nil => simp
  | cons row front ih =>
    rw [List.cons_append, List.intercalate_cons_of_ne_nil (by simp), ih]
    simp

lemma unlines_injective {more : List (List Char)} (h : ∀ row ∈ rows, '\n' ∉ row)
    (hmore : ∀ row ∈ more, '\n' ∉ row) (heq : unlines rows = unlines more) : rows = more := by
  have hsplit : ∀ rows : List (List Char), (∀ row ∈ rows, '\n' ∉ row) →
      (unlines rows).splitOn '\n' = rows ++ [[]] := by
    intro rows h
    have hjoin : unlines rows = ['\n'].intercalate (rows ++ [[]]) := by simp [intercalate_concat]
    rw [hjoin, List.splitOn_intercalate _ _ (by simp)]
    intro row hrow
    rcases List.mem_append.mp hrow with hrow | hrow
    · exact h row hrow
    · simp [List.mem_singleton.mp hrow]
  have hrows := hsplit rows h
  rw [heq, hsplit more hmore] at hrows
  exact (List.append_cancel_right hrows).symm

/-- A text is its rows; all but the last have a line feed behind them. -/
lemma exists_rows (text : List Char) :
    ∃ front last, text.splitOn '\n' = front ++ [last] ∧ text = unlines front ++ last ∧
      (∀ row ∈ front, '\n' ∉ row) ∧ '\n' ∉ last := by
  rcases List.eq_nil_or_concat (text.splitOn '\n') with hnil | ⟨front, last, hrows⟩
  · exact absurd hnil (List.splitOn_ne_nil _ _)
  · rw [List.concat_eq_append] at hrows
    refine ⟨front, last, hrows, ?_, ?_, ?_⟩
    · rw [← intercalate_concat, ← hrows, List.intercalate_splitOn]
    · intro row hmem
      exact notMem_of_mem_splitOn (hrows ▸ List.mem_append_left _ hmem)
    · exact notMem_of_mem_splitOn (hrows ▸ List.mem_append_right _ List.mem_cons_self)

lemma append_newline (text : List Char) : text ++ ['\n'] = unlines (text.splitOn '\n') := by
  obtain ⟨front, last, hrows, htext, -⟩ := exists_rows text
  rw [hrows]
  nth_rewrite 1 [htext]
  simp

lemma notMem_of_mem_lines (h : row ∈ lines text) : '\n' ∉ row := by
  obtain ⟨front, last, -, rfl, hfront, hlast⟩ := exists_rows text
  rw [lines_unlines_append hfront, lines_of_notMem hlast] at h
  rcases List.mem_append.mp h with h | h
  · obtain ⟨old, hmem, rfl⟩ := List.mem_map.mp h
    exact fun hin => hfront old hmem ((prefix_stripReturn old).subset hin)
  · split at h
    · cases h
    · exact List.mem_singleton.mp h ▸ hlast

/-! ### Line feeds at the end -/

@[simp] lemma trimNewlines_concat (text : List Char) :
    trimNewlines (text ++ ['\n']) = trimNewlines text :=
  List.rdropWhile_concat_pos _ _ _ (by simp)

lemma trimNewlines_of_getLast? (h : text.getLast? ≠ some '\n') : trimNewlines text = text := by
  rcases List.eq_nil_or_concat text with rfl | ⟨front, c, rfl⟩
  · rfl
  · rw [List.concat_eq_append] at h ⊢
    have hc : c ≠ '\n' := by simpa using h
    exact List.rdropWhile_concat_neg _ _ _ (by simpa using hc)

/-- Without the line feeds at its end a text is made of its rows up to the last that is not empty. -/
lemma trimNewlines_unlines (h : ∀ row ∈ rows, '\n' ∉ row) :
    trimNewlines (unlines rows) = ['\n'].intercalate (rows.rdropWhile List.isEmpty) := by
  induction rows using List.reverseRecOn with
  | nil => rfl
  | append_singleton rows row ih =>
    have hrows := ih fun r hr => h r (List.mem_append_left _ hr)
    have hrow := h row (List.mem_append_right _ List.mem_cons_self)
    have hsplit : unlines (rows ++ [row]) = (unlines rows ++ row) ++ ['\n'] := by simp
    rw [hsplit, trimNewlines_concat]
    by_cases hempty : row = []
    · rw [List.rdropWhile_concat_pos _ _ _ (by simp [hempty]), ← hrows, hempty, List.append_nil]
    · rw [List.rdropWhile_concat_neg _ _ _ (by simp [hempty]), intercalate_concat]
      apply trimNewlines_of_getLast?
      rw [List.getLast?_append_of_ne_nil _ hempty]
      intro hlast
      exact hrow (List.mem_of_getLast? hlast)

lemma trimNewlines_eq (text : List Char) :
    trimNewlines text = ['\n'].intercalate ((text.splitOn '\n').rdropWhile List.isEmpty) := by
  rw [← trimNewlines_concat, append_newline]
  exact trimNewlines_unlines fun row hrow => notMem_of_mem_splitOn hrow

end

end Ork3.Library
