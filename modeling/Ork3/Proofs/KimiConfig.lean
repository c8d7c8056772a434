import Ork3.Library.Tokens
import Ork3.Model.KimiConfig

/-!
# One block in Kimi's settings

Installing leaves one block, and uninstalling the lines outside the blocks, as long as every block is
closed and no carriage return is taken for part of a line end.
-/

namespace Ork3.Integration

open Ork3.Library
open Ork3.Terminal (trim isWhitespace)

/-! ### What is asked of the edits -/

def opensBlock (line : List Char) : Bool := trim line = kimiConfigBlockBegin

attribute [grind =] opensBlock

def closesBlock (line : List Char) : Bool := trim line = kimiConfigBlockEnd

attribute [grind =] closesBlock

lemma length_tail_dropWhile_lt {α : Type} (p : α → Bool) (x : α) (xs : List α) :
    (xs.dropWhile p).tail.length < (x :: xs).length := by
  have hle : (xs.dropWhile p).length ≤ xs.length := (List.dropWhile_suffix p).length_le
  rw [List.length_tail, List.length_cons]
  omega

/-- The lines outside the complete blocks. A block reaches from a line that opens it to the next
line that closes one. -/
def outsideBlocks : List (List Char) → List (List Char)
  | [] => []
  | line :: rest =>
    if opensBlock line && rest.any closesBlock then
      outsideBlocks (rest.dropWhile fun line => !closesBlock line).tail
    else line :: outsideBlocks rest
termination_by lines => lines.length
decreasing_by
  · exact length_tail_dropWhile_lt _ _ _
  · exact Nat.lt_succ_self _

/-- What is asked of installing and uninstalling the block; empty lines at the end do not count. -/
structure KimiLaws (hookCommand : List Char → List Char) (content : List Char) : Prop where
  keeps_text : (lines content).any opensBlock = false → removeKimiConfigBlock content = content
  keeps_lines : (lines content).any opensBlock = true →
    lines (removeKimiConfigBlock content) =
      (outsideBlocks (lines content)).rdropWhile List.isEmpty
  remove_idempotent : removeKimiConfigBlock (removeKimiConfigBlock content) =
    removeKimiConfigBlock content
  build_idempotent :
    buildKimiConfigWithHooks hookCommand (buildKimiConfigWithHooks hookCommand content) =
      buildKimiConfigWithHooks hookCommand content
  one_block : ∃ before body,
    lines (buildKimiConfigWithHooks hookCommand content) =
      before ++ kimiConfigBlockBegin :: body ++ [kimiConfigBlockEnd] ∧
    (∀ line ∈ before, opensBlock line = false) ∧
    ∀ line ∈ body, opensBlock line = false ∧ closesBlock line = false
  remove_build :
    trimNewlines (removeKimiConfigBlock (buildKimiConfigWithHooks hookCommand content)) =
      trimNewlines (removeKimiConfigBlock content)

/-- Behind every line that opens a block there is one that closes it. -/
def Terminated (ls : List (List Char)) : Prop :=
  ∀ line back, line :: back <:+ ls → opensBlock line = true → back.any closesBlock = true

/-- Where lines are joined anew no line ends in a carriage return, elsewhere no row does. -/
def NoReturns (content : List Char) : Prop :=
  if (lines content).any opensBlock then
    ∀ line ∈ outsideBlocks (lines content), line.getLast? ≠ some '\r'
  else ∀ row ∈ content.splitOn '\n', row.getLast? ≠ some '\r'

section
variable {line : List Char} {ls back rest rows : List (List Char)} {content : List Char}
  {hookCommand : List Char → List Char}

/-! ### Markers -/

lemma opensBlock_begin : opensBlock kimiConfigBlockBegin = true := by decide

lemma closesBlock_end : closesBlock kimiConfigBlockEnd = true := by decide

lemma begin_ne_end : kimiConfigBlockBegin ≠ kimiConfigBlockEnd := by decide

lemma not_closes_of_opens (h : opensBlock line = true) : closesBlock line = false := by
  unfold opensBlock closesBlock at *
  rw [of_decide_eq_true h]
  exact decide_eq_false begin_ne_end

lemma not_opens_of_closes (h : closesBlock line = true) : opensBlock line = false := by
  cases hopens : opensBlock line with
  | false => rfl
  | true => rw [not_closes_of_opens hopens] at h; cases h

lemma trim_stripReturn (row : List Char) : trim (stripReturn row) = trim row := by
  by_cases h : row.getLast? = some '\r'
  · obtain ⟨front, rfl⟩ := List.getLast?_eq_some_iff.mp h
    rw [stripReturn_concat]
    exact (trimBy_concat (by decide)).symm
  · rw [stripReturn_of_ne h]

lemma opensBlock_stripReturn (row : List Char) : opensBlock (stripReturn row) = opensBlock row := by
  unfold opensBlock
  rw [trim_stripReturn]

/-- A marker begins with the sign of a comment. -/
lemma head_of_marker {c : Char} (hc : isWhitespace c = false) (hne : c ≠ '#') (text : List Char) :
    opensBlock (c :: text) = false ∧ closesBlock (c :: text) = false := by
  have htrim : ∃ more, trim (c :: text) = c :: more := by
    unfold trim
    rw [List.dropWhile_cons_of_neg (by simp [hc]), List.reverse_cons]
    rw [List.dropWhile_append]
    split
    · exact ⟨[], by simp [hc]⟩
    · exact ⟨_, by rw [List.reverse_append]; rfl⟩
  obtain ⟨more, hmore⟩ := htrim
  unfold opensBlock closesBlock
  rw [hmore]
  constructor <;>
    · apply decide_eq_false
      intro h
      exact hne (List.cons.inj h).1

/-! ### Terminated blocks -/

lemma Terminated.suffix (h : Terminated ls) (hback : back <:+ ls) : Terminated back :=
  fun line more hmore => h line more (hmore.trans hback)

lemma terminated_cons (hopens : opensBlock line = false) (h : Terminated rest) :
    Terminated (line :: rest) := by
  intro first back hback hfirst
  rcases List.suffix_cons_iff.mp hback with heq | hback
  · obtain ⟨rfl, rfl⟩ := List.cons.inj heq
    rw [hopens] at hfirst
    cases hfirst
  · exact h first back hback hfirst

lemma exists_closing (h : ls.any closesBlock = true) :
    ∃ before close, ls = before ++ close :: (ls.dropWhile fun line => !closesBlock line).tail ∧
      closesBlock close = true := by
  induction ls with
  | nil => cases h
  | cons line ls ih =>
    cases hline : closesBlock line with
    | true =>
      refine ⟨[], line, ?_, hline⟩
      rw [List.dropWhile_cons_of_neg (by simp [hline])]
      rfl
    | false =>
      rw [List.any_cons, hline, Bool.false_or] at h
      obtain ⟨before, close, hls, hclose⟩ := ih h
      refine ⟨line :: before, close, ?_, hclose⟩
      rw [List.dropWhile_cons_of_pos (by simp [hline]), List.cons_append, ← hls]

lemma terminated_of_tail (hclose : rest.any closesBlock = true)
    (h : Terminated (rest.dropWhile fun line => !closesBlock line).tail) :
    Terminated (line :: rest) := by
  obtain ⟨before, close, hrest, hcloses⟩ := exists_closing hclose
  generalize (rest.dropWhile fun line => !closesBlock line).tail = after at h hrest
  intro first back hback hfirst
  have hafter : close :: after <:+ line :: rest := by
    rw [hrest]
    exact List.suffix_append (line :: before) _
  rcases List.suffix_or_suffix_of_suffix hback hafter with hle | hle
  · rcases List.suffix_cons_iff.mp hle with heq | hle
    · obtain ⟨rfl, rfl⟩ := List.cons.inj heq
      rw [not_opens_of_closes hcloses] at hfirst
      cases hfirst
    · exact h first back hle hfirst
  · rcases List.suffix_cons_iff.mp hle with heq | hle
    · obtain ⟨rfl, rfl⟩ := List.cons.inj heq
      rw [not_opens_of_closes hcloses] at hfirst
      cases hfirst
    · exact List.any_eq_true.mpr ⟨close, hle.subset List.mem_cons_self, hcloses⟩

/-- Only a block that is not closed leaves its opening line outside. -/
lemma terminated_of_outside (h : ∀ line ∈ outsideBlocks ls, opensBlock line = false) :
    Terminated ls := by
  fun_induction outsideBlocks ls with
  | case1 => intro line back hback; simp at hback
  | case2 line rest hblock ih =>
    rw [Bool.and_eq_true] at hblock
    exact terminated_of_tail hblock.2 (ih h)
  | case3 line rest hblock ih =>
    exact terminated_cons (h line List.mem_cons_self)
      (ih fun other hother => h other (List.mem_cons_of_mem line hother))

/-! ### The scan -/

/-- The lines that the scan keeps. -/
def keptFrom : Bool → List (List Char) → List (List Char)
  | _, [] => []
  | inBlock, line :: rest =>
    if opensBlock line then keptFrom true rest
    else if inBlock then keptFrom (!closesBlock line) rest
    else line :: keptFrom false rest

attribute [grind =] keptFrom

lemma lines_scan (s : KimiScan) (ls : List (List Char)) :
    (ls.foldl KimiScan.line s).lines = s.lines ++ keptFrom s.inBlock ls := by
  induction ls generalizing s with
  | nil => simp [keptFrom]
  | cons line ls ih =>
    rw [List.foldl_cons, ih]
    by_cases hopens : trim line = kimiConfigBlockBegin
    · simp [KimiScan.line, keptFrom, opensBlock, hopens]
    · cases hin : s.inBlock with
      | false => simp [KimiScan.line, keptFrom, opensBlock, hopens, hin]
      | true =>
        by_cases hcloses : trim line = kimiConfigBlockEnd <;>
          simp [KimiScan.line, keptFrom, opensBlock, closesBlock, hopens, hin, hcloses,
            begin_ne_end.symm]

lemma removedBlock_scan (s : KimiScan) (ls : List (List Char)) :
    (ls.foldl KimiScan.line s).removedBlock = (s.removedBlock || ls.any opensBlock) := by
  induction ls generalizing s with
  | nil => simp
  | cons line ls ih =>
    rw [List.foldl_cons, ih, List.any_cons]
    by_cases hopens : trim line = kimiConfigBlockBegin
    · simp [KimiScan.line, opensBlock, hopens]
    · have hkept : (s.line line).removedBlock = s.removedBlock := by
        unfold KimiScan.line
        rw [if_neg hopens]
        split <;> [split; skip] <;> rfl
      simp [hkept, opensBlock, hopens]

lemma not_opens_of_mem_keptFrom {inBlock : Bool} (h : line ∈ keptFrom inBlock ls) :
    opensBlock line = false := by
  induction ls generalizing inBlock with
  | nil => simp [keptFrom] at h
  | cons first rest ih =>
    unfold keptFrom at h
    split at h
    · exact ih h
    · split at h
      · exact ih h
      · rename_i hopens _
        rcases List.mem_cons.mp h with rfl | h
        · simpa using hopens
        · exact ih h

lemma mem_of_mem_keptFrom {inBlock : Bool} (h : line ∈ keptFrom inBlock ls) : line ∈ ls := by
  induction ls generalizing inBlock with
  | nil => simp [keptFrom] at h
  | cons first rest ih =>
    unfold keptFrom at h
    split at h
    · exact List.mem_cons_of_mem first (ih h)
    · split at h
      · exact List.mem_cons_of_mem first (ih h)
      · rcases List.mem_cons.mp h with rfl | h
        · exact List.mem_cons_self
        · exact List.mem_cons_of_mem first (ih h)

/-- An open block swallows everything up to the line that closes it. -/
lemma keptFrom_true (ls : List (List Char)) :
    keptFrom true ls = keptFrom false (ls.dropWhile fun line => !closesBlock line).tail := by
  induction ls with
  | nil => rfl
  | cons line ls ih =>
    cases hcloses : closesBlock line with
    | true =>
      rw [List.dropWhile_cons_of_neg (by simp [hcloses])]
      simp [keptFrom, not_opens_of_closes hcloses, hcloses]
    | false =>
      rw [List.dropWhile_cons_of_pos (by simp [hcloses]), ← ih]
      simp [keptFrom, hcloses]

lemma keptFrom_append (h : ∀ line ∈ ls, opensBlock line = false) (back : List (List Char)) :
    keptFrom false (ls ++ back) = ls ++ keptFrom false back := by
  induction ls with
  | nil => rfl
  | cons line ls ih =>
    have hline := h line List.mem_cons_self
    have hrest := ih fun other hother => h other (List.mem_cons_of_mem line hother)
    simp [keptFrom, hline, hrest]

/-- The scan keeps what is outside the blocks, as long as every block is closed. -/
lemma keptFrom_eq_outside (h : Terminated ls) : keptFrom false ls = outsideBlocks ls := by
  fun_induction outsideBlocks ls with
  | case1 => rfl
  | case2 line rest hblock ih =>
    rw [Bool.and_eq_true] at hblock
    have hsuffix : (rest.dropWhile fun line => !closesBlock line).tail <:+ line :: rest :=
      ((List.tail_suffix _).trans (List.dropWhile_suffix _)).trans (List.suffix_cons line rest)
    rw [← ih (h.suffix hsuffix), ← keptFrom_true]
    simp [keptFrom, hblock.1]
  | case3 line rest hblock ih =>
    have hopens : opensBlock line = false := by
      cases hline : opensBlock line with
      | false => rfl
      | true => exact absurd (by rw [hline, h line rest List.suffix_rfl hline]; rfl) hblock
    rw [← ih (h.suffix (List.suffix_cons line rest))]
    simp [keptFrom, hopens]

/-! ### Removing the block -/

lemma trimNewlines_trimNewlines (text : List Char) :
    trimNewlines (trimNewlines text) = trimNewlines text :=
  List.rdropWhile_idempotent _ _

lemma trimNewlines_joinTomlLines (h : ∀ row ∈ rows, '\n' ∉ row) (trailing : Bool) :
    trimNewlines (joinTomlLines rows trailing) =
      ['\n'].intercalate (rows.rdropWhile List.isEmpty) := by
  have hjoin : trimNewlines (joinTomlLines rows trailing) =
      trimNewlines (['\n'].intercalate rows) := by
    unfold joinTomlLines
    dsimp only
    split
    · exact trimNewlines_concat _
    · rfl
  rw [hjoin]
  rcases List.eq_nil_or_concat rows with rfl | ⟨front, last, rfl⟩
  · rfl
  · rw [List.concat_eq_append] at h ⊢
    rw [intercalate_concat, ← trimNewlines_unlines h, ← trimNewlines_concat]
    simp

lemma popNewlines_eq (text : List Char) :
    popNewlines text =
      (if text.head? = some '\n' then ['\n'] else []) ++ text.dropWhile (· = '\n') := by
  induction text with
  | nil => rfl
  | cons c text ih =>
    by_cases hc : c = '\n'
    · subst hc
      rw [popNewlines, List.dropWhile_cons_of_pos (by simp), List.head?_cons, if_pos rfl]
      split
      · rename_i hhead
        rw [ih, if_pos hhead]
      · rename_i hhead
        have hnone : text.dropWhile (· = '\n') = text := by
          cases text with
          | nil => rfl
          | cons d text =>
            have hd : d ≠ '\n' := by simpa using hhead
            exact List.dropWhile_cons_of_neg (by simpa using hd)
        rw [hnone]
        rfl
    · rw [List.dropWhile_cons_of_neg (by simpa using hc), if_neg (by simpa using hc)]
      unfold popNewlines
      split
      · rename_i heq
        exact absurd (List.cons.inj heq).1 hc
      · rfl

lemma popNewlines_reverse (text : List Char) :
    (popNewlines text.reverse).reverse =
      trimNewlines text ++ if text.getLast? = some '\n' then ['\n'] else [] := by
  rw [popNewlines_eq, List.reverse_append, List.head?_reverse]
  congr 1
  split <;> rfl

/-- The rows that stand before the line feeds at the end when the block is out. -/
def bodyRows (content : List Char) : List (List Char) :=
  let rows := if (lines content).any opensBlock then keptFrom false (lines content)
    else content.splitOn '\n'
  rows.rdropWhile List.isEmpty

lemma bodyRows_of_block (h : (lines content).any opensBlock = true) :
    bodyRows content = (keptFrom false (lines content)).rdropWhile List.isEmpty := by
  simp [bodyRows, h]

lemma bodyRows_of_no_block (h : (lines content).any opensBlock = false) :
    bodyRows content = (content.splitOn '\n').rdropWhile List.isEmpty := by
  simp [bodyRows, h]

lemma remove_of_no_block (h : (lines content).any opensBlock = false) :
    removeKimiConfigBlock content = content := by
  unfold removeKimiConfigBlock
  dsimp only
  rw [removedBlock_scan, h]
  rfl

lemma notMem_of_mem_keptFrom (h : line ∈ keptFrom false (lines content)) : '\n' ∉ line :=
  notMem_of_mem_lines (mem_of_mem_keptFrom h)

lemma bodyRows_cases (content : List Char) : bodyRows content = [] ∨
    ∃ front last, bodyRows content = front ++ [last] ∧ last ≠ [] := by
  rcases List.eq_nil_or_concat (bodyRows content) with hnil | ⟨front, last, hbody⟩
  · exact .inl hnil
  · rw [List.concat_eq_append] at hbody
    refine .inr ⟨front, last, hbody, ?_⟩
    have hne : bodyRows content ≠ [] := by simp [hbody]
    have hlast := List.rdropWhile_last_not List.isEmpty _ hne
    change ¬ ((bodyRows content).getLast hne).isEmpty = true at hlast
    simpa [hbody] using hlast

lemma intercalate_bodyRows_ne_nil (h : bodyRows content ≠ []) :
    ['\n'].intercalate (bodyRows content) ≠ [] := by
  rcases bodyRows_cases content with hnil | ⟨front, last, hbody, hlast⟩
  · exact absurd hnil h
  · rw [hbody, intercalate_concat]
    simp [hlast]

/-- What is left is the kept lines up to the last that is not empty, and at most one line feed. -/
lemma remove_of_block (h : (lines content).any opensBlock = true) :
    ∃ lineEnd, (lineEnd = [] ∨ lineEnd = ['\n'] ∧ bodyRows content ≠ []) ∧
      removeKimiConfigBlock content = ['\n'].intercalate (bodyRows content) ++ lineEnd := by
  have hbody := bodyRows_of_block h
  unfold removeKimiConfigBlock
  dsimp only
  rw [removedBlock_scan, h, lines_scan, List.nil_append, popNewlines_reverse,
    trimNewlines_joinTomlLines fun row hrow => notMem_of_mem_keptFrom hrow, ← hbody]
  have htrim := trimNewlines_trimNewlines
    (joinTomlLines (keptFrom false (lines content)) (endsInLineFeed content))
  rw [trimNewlines_joinTomlLines fun row hrow => notMem_of_mem_keptFrom hrow, ← hbody] at htrim
  rw [Bool.false_or, Bool.not_true, if_neg Bool.false_ne_true]
  by_cases hnil : bodyRows content = []
  · refine ⟨[], .inl rfl, ?_⟩
    rw [hnil, List.intercalate_nil, List.nil_append]
    split
    · rw [if_pos rfl]
      rfl
    · rfl
  · have htext := intercalate_bodyRows_ne_nil hnil
    generalize ['\n'].intercalate (bodyRows content) = text at htrim htext
    refine ⟨_, ?_, if_neg ?_⟩
    · split
      · exact .inr ⟨rfl, hnil⟩
      · exact .inl rfl
    · intro hnewline
      rcases List.append_eq_singleton_iff.mp hnewline with ⟨hempty, -⟩ | ⟨hsingle, -⟩
      · exact htext hempty
      · rw [hsingle] at htrim
        exact absurd htrim (by decide)

/-- No row that the body is made of opens a block. -/
lemma bodyRows_spec {row : List Char} (h : row ∈ bodyRows content) :
    '\n' ∉ row ∧ opensBlock row = false := by
  have hrow := (List.rdropWhile_prefix _ _).subset h
  cases hany : (lines content).any opensBlock with
  | true =>
    rw [hany, if_pos rfl] at hrow
    exact ⟨notMem_of_mem_keptFrom hrow, not_opens_of_mem_keptFrom hrow⟩
  | false =>
    rw [hany, if_neg Bool.false_ne_true] at hrow
    refine ⟨notMem_of_mem_splitOn hrow, ?_⟩
    obtain ⟨front, last, hrows, htext, hfront, hlast⟩ := exists_rows content
    have hlines : lines content = front.map stripReturn ++ if last = [] then [] else [last] := by
      nth_rewrite 1 [htext]
      rw [lines_unlines_append hfront, lines_of_notMem hlast]
    have hnone : ∀ line ∈ lines content, opensBlock line = false := by
      intro line hline
      simpa using List.any_eq_false.mp hany line hline
    rw [hrows] at hrow
    rcases List.mem_append.mp hrow with hrow | hrow
    · rw [← opensBlock_stripReturn]
      exact hnone _ (hlines ▸ List.mem_append_left _ (List.mem_map_of_mem hrow))
    · obtain rfl := List.mem_singleton.mp hrow
      by_cases hempty : row = []
      · rw [hempty]
        decide
      · exact hnone _ (hlines ▸ List.mem_append_right _ (by simp [hempty]))

lemma trimNewlines_bodyRows (content : List Char) :
    trimNewlines (['\n'].intercalate (bodyRows content)) =
      ['\n'].intercalate (bodyRows content) := by
  rcases bodyRows_cases content with hnil | ⟨front, last, hbody, hlast⟩
  · rw [hnil]
    rfl
  · rw [hbody, intercalate_concat]
    apply trimNewlines_of_getLast?
    rw [List.getLast?_append_of_ne_nil _ hlast]
    intro hnewline
    exact (bodyRows_spec (hbody ▸ List.mem_append_right front List.mem_cons_self)).1
      (List.mem_of_getLast? hnewline)

lemma trimNewlines_remove (content : List Char) :
    trimNewlines (removeKimiConfigBlock content) = ['\n'].intercalate (bodyRows content) := by
  cases hany : (lines content).any opensBlock with
  | true =>
    obtain ⟨lineEnd, rfl | ⟨rfl, -⟩, hremove⟩ := remove_of_block hany
    · rw [hremove, List.append_nil, trimNewlines_bodyRows]
    · rw [hremove, trimNewlines_concat, trimNewlines_bodyRows]
  | false =>
    rw [remove_of_no_block hany, trimNewlines_eq, bodyRows_of_no_block hany]

/-- The lines of what is left are rows of the body, some without a carriage return. -/
lemma lines_remove (h : (lines content).any opensBlock = true) :
    lines (removeKimiConfigBlock content) = (bodyRows content).map stripReturn ∨
      ∃ front last, bodyRows content = front ++ [last] ∧
        lines (removeKimiConfigBlock content) = front.map stripReturn ++ [last] := by
  obtain ⟨lineEnd, hend, hremove⟩ := remove_of_block h
  have hrows : ∀ row ∈ bodyRows content, '\n' ∉ row := fun row hrow => (bodyRows_spec hrow).1
  rw [hremove]
  rcases bodyRows_cases content with hnil | ⟨front, last, hbody, hlast⟩
  · rcases hend with rfl | ⟨-, hne⟩
    · rw [hnil]
      exact .inl rfl
    · exact absurd hnil hne
  · rw [hbody] at hrows ⊢
    have hfront : ∀ row ∈ front, '\n' ∉ row := fun row hrow =>
      hrows row (List.mem_append_left _ hrow)
    have hnot : '\n' ∉ last := hrows last (List.mem_append_right _ List.mem_cons_self)
    rw [intercalate_concat]
    rcases hend with rfl | ⟨rfl, -⟩
    · refine .inr ⟨front, last, rfl, ?_⟩
      rw [List.append_nil, lines_unlines_append hfront, lines_of_notMem hnot, if_neg hlast]
    · left
      have hunlines : unlines front ++ last ++ ['\n'] = unlines (front ++ [last]) := by simp
      rw [hunlines, lines_unlines hrows]

lemma no_block_remove (content : List Char) :
    (lines (removeKimiConfigBlock content)).any opensBlock = false := by
  cases hany : (lines content).any opensBlock with
  | false => rw [remove_of_no_block hany, hany]
  | true =>
    have hrows : ∀ row ∈ bodyRows content, opensBlock row = false := fun row hrow =>
      (bodyRows_spec hrow).2
    rcases lines_remove hany with hlines | ⟨front, last, hbody, hlines⟩
    · rw [hlines, List.any_map, List.any_eq_false]
      intro row hrow
      simp [opensBlock_stripReturn, hrows row hrow]
    · rw [hbody] at hrows
      rw [hlines, List.any_append, List.any_map, Bool.or_eq_false_iff]
      constructor
      · rw [List.any_eq_false]
        intro row hrow
        simp [opensBlock_stripReturn, hrows row (List.mem_append_left _ hrow)]
      · simp [hrows last (List.mem_append_right _ List.mem_cons_self)]

/-! ### Writing the block -/

/-- The lines between the markers. -/
def blockBody (hookCommand : List Char → List Char) : List (List Char) :=
  kimiHookEvents.flatMap fun hook =>
    ["[[hooks]]".toList, "event = ".toList ++ tomlBasicString hook.1,
      "command = ".toList ++ tomlBasicString (hookCommand hook.2), "timeout = 10".toList, []]

def blockLines (hookCommand : List Char → List Char) : List (List Char) :=
  kimiConfigBlockBegin :: blockBody hookCommand ++ [kimiConfigBlockEnd]

attribute [grind =] blockLines

/-- An empty line parts the block from what stands before it. -/
def withGap (rows : List (List Char)) : List (List Char) :=
  if rows = [] then [] else rows ++ [[]]

attribute [grind =] withGap

lemma hexDigitUpper_ne_newline (n : Nat) : '\n' ≠ hexDigitUpper n := by
  unfold hexDigitUpper
  cases hget : "0123456789ABCDEF".toList[n]? with
  | none => decide
  | some d =>
    have hmem := List.mem_of_getElem? hget
    rintro rfl
    exact absurd hmem (by decide)

lemma newline_notMem_escapeChar (c : Char) : '\n' ∉ escapeChar c := by
  unfold escapeChar escapeControl
  by_cases hc : c = '\n'
  · subst hc
    decide
  · repeat' split
    all_goals simp [hexDigitUpper_ne_newline, Ne.symm hc]

lemma newline_notMem_tomlBasicString (value : List Char) : '\n' ∉ tomlBasicString value := by
  unfold tomlBasicString
  simp only [List.cons_append, List.mem_cons, List.mem_append, List.mem_flatMap, not_or]
  refine ⟨by decide, ?_, by decide⟩
  rintro ⟨c, -, hc⟩
  exact newline_notMem_escapeChar c hc

lemma kimiHookTable_eq (hookCommand : List Char → List Char) (event action : List Char) :
    kimiHookTable hookCommand event action =
      unlines ["[[hooks]]".toList, "event = ".toList ++ tomlBasicString event,
        "command = ".toList ++ tomlBasicString (hookCommand action), "timeout = 10".toList, []] := by
  have hevent : "[[hooks]]\nevent = ".toList = "[[hooks]]".toList ++ '\n' :: "event = ".toList := rfl
  have hcommand : "\ncommand = ".toList = '\n' :: "command = ".toList := rfl
  have htimeout : "\ntimeout = 10\n\n".toList =
      '\n' :: ("timeout = 10".toList ++ ['\n', '\n']) := rfl
  unfold kimiHookTable
  rw [hevent, hcommand, htimeout]
  simp only [unlines_cons, unlines_nil, List.append_assoc, List.cons_append, List.nil_append]

lemma unlines_blockLines (hookCommand : List Char → List Char) :
    unlines (blockLines hookCommand) = kimiConfigBlockBegin ++ ['\n'] ++
      kimiHookEvents.flatMap (fun hook => kimiHookTable hookCommand hook.1 hook.2) ++
      kimiConfigBlockEnd ++ ['\n'] := by
  have hbody : unlines (blockBody hookCommand) =
      kimiHookEvents.flatMap fun hook => kimiHookTable hookCommand hook.1 hook.2 := by
    unfold unlines blockBody
    rw [List.flatMap_assoc]
    exact List.flatMap_congr fun hook _ => (kimiHookTable_eq hookCommand hook.1 hook.2).symm
  rw [blockLines, List.cons_append, unlines_cons, unlines_append, hbody]
  simp

/-- The lines of the block's body are no markers and keep their ends. -/
lemma blockBody_spec (h : line ∈ blockBody hookCommand) :
    '\n' ∉ line ∧ stripReturn line = line ∧ opensBlock line = false ∧ closesBlock line = false := by
  have hquoted : ∀ (first : Char) (key value : List Char), '\n' ∉ first :: key →
      isWhitespace first = false → first ≠ '#' →
      '\n' ∉ (first :: key) ++ tomlBasicString value ∧
        stripReturn ((first :: key) ++ tomlBasicString value) =
          (first :: key) ++ tomlBasicString value ∧
        opensBlock ((first :: key) ++ tomlBasicString value) = false ∧
        closesBlock ((first :: key) ++ tomlBasicString value) = false := by
    intro first key value hkey hfirst hne
    refine ⟨?_, stripReturn_of_ne ?_, head_of_marker hfirst hne _⟩
    · rw [List.mem_append]
      exact fun hmem => hmem.elim hkey (newline_notMem_tomlBasicString value)
    · rw [tomlBasicString, ← List.append_assoc, List.getLast?_concat]
      decide
  obtain ⟨hook, -, hline⟩ := List.mem_flatMap.mp h
  simp only [List.mem_cons, List.not_mem_nil, or_false] at hline
  rcases hline with rfl | rfl | rfl | rfl | rfl
  · decide
  · exact hquoted 'e' "vent = ".toList hook.1 (by decide) (by decide) (by decide)
  · exact hquoted 'c' "ommand = ".toList (hookCommand hook.2) (by decide) (by decide) (by decide)
  · decide
  · decide

lemma blockLines_rows (h : line ∈ blockLines hookCommand) :
    '\n' ∉ line ∧ stripReturn line = line := by
  unfold blockLines at h
  rcases List.mem_append.mp h with h | h
  · rcases List.mem_cons.mp h with rfl | h
    · decide
    · exact ⟨(blockBody_spec h).1, (blockBody_spec h).2.1⟩
  · rw [List.mem_singleton.mp h]
    decide

lemma map_stripReturn (h : ∀ row ∈ rows, stripReturn row = row) : rows.map stripReturn = rows := by
  rw [List.map_congr_left h, List.map_id']

lemma withGap_rows {row : List Char} (hmem : row ∈ withGap rows) : row ∈ rows ∨ row = [] := by
  unfold withGap at hmem
  split at hmem
  · cases hmem
  · simpa using hmem

lemma withGap_injective {more : List (List Char)} (h : withGap rows = withGap more) :
    rows = more := by
  unfold withGap at h
  by_cases hrows : rows = []
  · by_cases hmore : more = []
    · rw [hrows, hmore]
    · simp [hrows, hmore] at h
  · by_cases hmore : more = []
    · simp [hrows, hmore] at h
    · rw [if_neg hrows, if_neg hmore] at h
      exact List.append_cancel_right h

lemma build_eq (hookCommand : List Char → List Char) (content : List Char) :
    buildKimiConfigWithHooks hookCommand content =
      unlines (withGap (bodyRows content) ++ blockLines hookCommand) := by
  rw [unlines_append, unlines_blockLines]
  unfold buildKimiConfigWithHooks withGap
  rw [trimNewlines_remove]
  rcases bodyRows_cases content with hnil | ⟨front, last, hbody, hlast⟩
  · rw [hnil]
    simp
  · have hne : ['\n'].intercalate (bodyRows content) ≠ [] :=
      intercalate_bodyRows_ne_nil (by simp [hbody])
    rw [hbody] at hne ⊢
    rw [if_neg (by simp)]
    simp only [List.isEmpty_eq_false_iff.mpr hne, Bool.false_eq_true, if_false]
    rw [intercalate_concat]
    simp

lemma lines_build (hookCommand : List Char → List Char) (content : List Char) :
    lines (buildKimiConfigWithHooks hookCommand content) =
      (withGap (bodyRows content)).map stripReturn ++ blockLines hookCommand := by
  have hblock : (blockLines hookCommand).map stripReturn = blockLines hookCommand :=
    map_stripReturn fun line hline => (blockLines_rows hline).2
  rw [build_eq, lines_unlines, List.map_append, hblock]
  intro row hrow
  rcases List.mem_append.mp hrow with hrow | hrow
  · rcases withGap_rows hrow with hrow | rfl
    · exact (bodyRows_spec hrow).1
    · exact List.not_mem_nil
  · exact (blockLines_rows hrow).1

lemma not_opens_withGap (content : List Char) (h : line ∈ (withGap (bodyRows content)).map stripReturn) :
    opensBlock line = false := by
  obtain ⟨row, hrow, rfl⟩ := List.mem_map.mp h
  rw [opensBlock_stripReturn]
  rcases withGap_rows hrow with hrow | rfl
  · exact (bodyRows_spec hrow).2
  · decide

lemma keptFrom_blockLines (hookCommand : List Char → List Char) :
    keptFrom false (blockLines hookCommand) = [] := by
  have hbody : (blockBody hookCommand ++ [kimiConfigBlockEnd]).dropWhile
      (fun line => !closesBlock line) = [kimiConfigBlockEnd] := by
    rw [List.dropWhile_append_of_pos fun line hline => by simp [(blockBody_spec hline).2.2.2]]
    exact List.dropWhile_cons_of_neg (by simp [closesBlock_end])
  rw [blockLines, List.cons_append, keptFrom, if_pos opensBlock_begin, keptFrom_true, hbody]
  rfl

/-- The rows of what was installed are read back without the carriage returns at their ends. -/
lemma bodyRows_build (hookCommand : List Char → List Char) (content : List Char) :
    bodyRows (buildKimiConfigWithHooks hookCommand content) =
      ((bodyRows content).map stripReturn).rdropWhile List.isEmpty := by
  have hany : (lines (buildKimiConfigWithHooks hookCommand content)).any opensBlock = true := by
    rw [lines_build, List.any_eq_true]
    exact ⟨kimiConfigBlockBegin, by simp [blockLines], opensBlock_begin⟩
  rw [bodyRows_of_block hany, lines_build,
    keptFrom_append fun line hline => not_opens_withGap content hline, keptFrom_blockLines,
    List.append_nil]
  unfold withGap
  split
  · rename_i hnil
    rw [hnil]
  · rw [List.map_append, List.map_singleton]
    exact List.rdropWhile_concat_pos _ _ _ rfl

/-! ### The laws -/

lemma bodyRows_build_of_ends (h : ∀ row ∈ bodyRows content, row.getLast? ≠ some '\r') :
    bodyRows (buildKimiConfigWithHooks hookCommand content) = bodyRows content := by
  rw [bodyRows_build, map_stripReturn fun row hrow => stripReturn_of_ne (h row hrow)]
  rcases bodyRows_cases content with hnil | ⟨front, last, hbody, hlast⟩
  · rw [hnil]
    rfl
  · rw [hbody]
    exact List.rdropWhile_concat_neg _ _ _ (by simpa using hlast)

/-- Installing again changes nothing only if no row loses its end. -/
lemma ends_of_build_idempotent
    (h : buildKimiConfigWithHooks hookCommand (buildKimiConfigWithHooks hookCommand content) =
      buildKimiConfigWithHooks hookCommand content) :
    ∀ row ∈ bodyRows content, row.getLast? ≠ some '\r' := by
  have hnewline : ∀ content, ∀ row ∈ withGap (bodyRows content), '\n' ∉ row := by
    intro content row hrow
    rcases withGap_rows hrow with hrow | rfl
    · exact (bodyRows_spec hrow).1
    · exact List.not_mem_nil
  have hgap : withGap (bodyRows (buildKimiConfigWithHooks hookCommand content)) =
      withGap (bodyRows content) := by
    have htexts := (build_eq hookCommand (buildKimiConfigWithHooks hookCommand content)).symm.trans
      (h.trans (build_eq hookCommand content))
    rw [unlines_append, unlines_append] at htexts
    exact unlines_injective (hnewline _) (hnewline _) (List.append_cancel_right htexts)
  have hrows := withGap_injective hgap
  rw [bodyRows_build] at hrows
  -- Nothing was dropped from the end, as the number of rows is the same.
  have hall : ((bodyRows content).map stripReturn).rdropWhile List.isEmpty =
      (bodyRows content).map stripReturn :=
    (List.rdropWhile_prefix _ _).eq_of_length (by rw [hrows, List.length_map])
  rw [hall] at hrows
  have hid : (bodyRows content).map stripReturn = (bodyRows content).map id := by
    rw [hrows, List.map_id]
  intro row hrow
  exact stripReturn_eq_self_iff.mp (List.map_inj_left.mp hid row hrow)

lemma mem_rdropWhile_isEmpty {row : List Char} (h : row ∈ rows) (hne : row ≠ []) :
    row ∈ rows.rdropWhile List.isEmpty := by
  induction rows using List.reverseRecOn with
  | nil => cases h
  | append_singleton rows last ih =>
    by_cases hlast : last = []
    · rw [List.rdropWhile_concat_pos _ _ _ (by simp [hlast])]
      rcases List.mem_append.mp h with h | h
      · exact ih h
      · exact absurd (List.mem_singleton.mp h ▸ hlast) hne
    · rwa [List.rdropWhile_concat_neg _ _ _ (by simpa using hlast)]

lemma ends_iff_rdropWhile :
    (∀ row ∈ rows.rdropWhile List.isEmpty, row.getLast? ≠ some '\r') ↔
      ∀ row ∈ rows, row.getLast? ≠ some '\r' := by
  constructor
  · intro h row hrow
    by_cases hne : row = []
    · simp [hne]
    · exact h row (mem_rdropWhile_isEmpty hrow hne)
  · intro h row hrow
    exact h row ((List.rdropWhile_prefix _ _).subset hrow)

/-- With the blocks closed, no row of the body ends in a carriage return exactly where the text
allows none. -/
lemma ends_iff_noReturns (h : Terminated (lines content)) :
    (∀ row ∈ bodyRows content, row.getLast? ≠ some '\r') ↔ NoReturns content := by
  unfold NoReturns
  cases hany : (lines content).any opensBlock with
  | true => rw [bodyRows_of_block hany, ends_iff_rdropWhile, keptFrom_eq_outside h, if_pos rfl]
  | false => rw [bodyRows_of_no_block hany, ends_iff_rdropWhile, if_neg Bool.false_ne_true]

lemma lines_remove_of_ends (h : (lines content).any opensBlock = true)
    (hends : ∀ row ∈ bodyRows content, row.getLast? ≠ some '\r') :
    lines (removeKimiConfigBlock content) = bodyRows content := by
  have hkeep := fun row hrow => stripReturn_of_ne (hends row hrow)
  rcases lines_remove h with hlines | ⟨front, last, hbody, hlines⟩
  · rw [hlines, map_stripReturn hkeep]
  · rw [hbody] at hkeep
    rw [hlines, hbody, map_stripReturn fun row hrow => hkeep row (List.mem_append_left _ hrow)]

lemma terminated_of_keeps
    (h : lines (removeKimiConfigBlock content) =
      (outsideBlocks (lines content)).rdropWhile List.isEmpty) :
    Terminated (lines content) := by
  apply terminated_of_outside
  intro line hline
  by_cases hne : line = []
  · rw [hne]
    decide
  · have hkept := mem_rdropWhile_isEmpty hline hne
    rw [← h] at hkept
    simpa using List.any_eq_false.mp (no_block_remove content) line hkept

lemma terminated_of_no_block (h : ls.any opensBlock = false) : Terminated ls := by
  intro line back hback hopens
  have hnone := List.any_eq_false.mp h line (hback.subset List.mem_cons_self)
  exact absurd hopens hnone

/-- The laws hold exactly where every block is closed and no carriage return can be taken for part of
a line end. -/
theorem kimiLaws_iff (hookCommand : List Char → List Char) (content : List Char) :
    KimiLaws hookCommand content ↔ Terminated (lines content) ∧ NoReturns content := by
  constructor
  · intro h
    have hterminated : Terminated (lines content) := by
      cases hany : (lines content).any opensBlock with
      | true => exact terminated_of_keeps (h.keeps_lines hany)
      | false => exact terminated_of_no_block hany
    exact ⟨hterminated,
      (ends_iff_noReturns hterminated).mp (ends_of_build_idempotent h.build_idempotent)⟩
  · rintro ⟨hterminated, hreturns⟩
    have hends := (ends_iff_noReturns hterminated).mpr hreturns
    have hsame : bodyRows (buildKimiConfigWithHooks hookCommand content) = bodyRows content :=
      bodyRows_build_of_ends hends
    refine ⟨remove_of_no_block, ?_, remove_of_no_block (no_block_remove content), ?_, ?_, ?_⟩
    · intro hany
      rw [lines_remove_of_ends hany hends, bodyRows_of_block hany,
        keptFrom_eq_outside hterminated]
    · rw [build_eq, hsame, ← build_eq]
    · refine ⟨(withGap (bodyRows content)).map stripReturn, blockBody hookCommand, ?_,
        fun line hline => not_opens_withGap content hline, ?_⟩
      · rw [lines_build, blockLines, ← List.append_assoc]
      · intro line hline
        exact (blockBody_spec hline).2.2
    · rw [trimNewlines_remove, trimNewlines_remove, hsame]

/-- A block that is not closed takes the rest of the settings with it. -/
theorem unterminatedBlock_lost :
    ¬ KimiLaws id "# >>> herdr kimi integration\nmodel = 1\n".toList := by
  intro h
  have hlines : lines "# >>> herdr kimi integration\nmodel = 1\n".toList =
      [kimiConfigBlockBegin, "model = 1".toList] := by decide
  have hopens : (lines "# >>> herdr kimi integration\nmodel = 1\n".toList).any opensBlock =
      true := by decide
  have hterminated := terminated_of_keeps (h.keeps_lines hopens)
  rw [hlines] at hterminated
  have hclosed := hterminated _ _ List.suffix_rfl opensBlock_begin
  exact absurd hclosed (by decide)

end

end Ork3.Integration
